import JavaAtlas.Encoding.Name
import JavaAtlas.Encoding.Utf7

/-! Character encodings: the text that bytes stand for. -/

namespace JavaAtlas.Encoding

/-- The mark at the start of UTF-8. -/
def utf8Mark : List UInt8 := [0xef, 0xbb, 0xbf]

/-- UTF-8 after an optional mark. Positions count from behind the mark, and the start of a mark
that is cut off is no text yet. -/
def decodeMarked (bytes : List UInt8) : Except DecodeError (List Char) :=
  if utf8Mark.isPrefixOf bytes then steps utf8Step 0 (bytes.drop 3)
  else if bytes.isPrefixOf utf8Mark then .ok []
  else steps utf8Step 0 bytes

/-- Units of `size` bytes after a mark of their byte order. Bytes without a mark are refused, but
only after they turn out to be text. -/
def decodeUnits (size : Nat) (step : ByteOrder → Step) (bytes : List UInt8) :
    Except DecodeError (List Char) :=
  if unit? size .little bytes == some 0xfeff then
    steps (step .little) size (bytes.drop size)
  else if unit? size .big bytes == some 0xfeff then
    steps (step .big) size (bytes.drop size)
  else
    match steps (step .little) 0 bytes with
    | .error e => .error e
    | .ok cs => if bytes.isEmpty then .ok cs else .error (.unmarked (8 * size))

/-- The text of some bytes. Halves of surrogate pairs stand in it as replacement characters. -/
def decode (encoding : Encoding) (bytes : List UInt8) : Except DecodeError (List Char) :=
  match encoding with
  | .ascii => steps (byteStep asciiChar?) 0 bytes
  | .latin1 => steps (byteStep fun n => some (Char.ofNat n)) 0 bytes
  | .page p => steps (byteStep (Page.charAt? p.start p.table)) 0 bytes
  | .charset c => steps c.step 0 bytes
  | .utf7 => (utf7Points bytes).map (·.map Point.shown)
  | .utf8 => steps utf8Step 0 bytes
  | .utf8Marked => decodeMarked bytes
  | .utf16 none => decodeUnits 2 utf16Step bytes
  | .utf16 (some order) => steps (utf16Step order) 0 bytes
  | .utf32 none => decodeUnits 4 utf32Step bytes
  | .utf32 (some order) => steps (utf32Step order) 0 bytes
  | .undefined => .error .undefined

/-- The points of some bytes. Only UTF-7 has halves of surrogate pairs without their other halves. -/
def points (encoding : Encoding) (bytes : List UInt8) : Except DecodeError (List Point) :=
  match encoding with
  | .utf7 => utf7Points bytes
  | e => (e.decode bytes).map (·.map Point.char)

end JavaAtlas.Encoding
