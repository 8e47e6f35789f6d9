import JavaAtlas.Encoding.Chinese
import JavaAtlas.Encoding.Japanese
import JavaAtlas.Encoding.Korean
import JavaAtlas.Encoding.Step
import JavaAtlas.Encoding.Taiwanese

/-! East Asian encodings: ASCII in single bytes, and characters of planes in pairs of bytes. -/

namespace JavaAtlas.Encoding

/-- An encoding of characters in one or more bytes. -/
inductive Charset where
  | shiftJis
  | windows31j
  | eucJp
  | gb2312
  | gbk
  | gb18030
  | big5
  | windows950
  | eucKr
  | windows949
deriving Repr, BEq, DecidableEq

namespace Charset

/-- The character of a single byte from 0x80 on. -/
abbrev Single := Nat → Option Char

/-- The character of two bytes, of which the first is no single one. -/
abbrev Pair := Nat → Nat → Option Char

def within (low high n : Nat) : Bool := low ≤ n && n ≤ high

/-- The cell of two bytes in a plane of 94 cells a row. -/
def cell94? (lead trail : Nat) : Option Nat :=
  if within 0xa1 0xfe lead && within 0xa1 0xfe trail then
    some ((lead - 0xa1) * 94 + (trail - 0xa1))
  else none

/-- The place of a second byte among those from 0x40 on, without 0x7f. -/
def trailPlace (trail : Nat) : Nat := if trail < 0x7f then trail - 0x40 else trail - 0x41

/-- The cell of two bytes that pack two rows of 94 cells behind one lead. -/
def packedCell? (lead trail : Nat) : Option Nat :=
  if !(within 0x40 0xfc trail && trail != 0x7f) then none
  else if within 0x81 0x9f lead then some ((lead - 0x81) * 188 + trailPlace trail)
  else if within 0xe0 0xfc lead then some ((lead - 0xc1) * 188 + trailPlace trail)
  else none

/-- The cell of two bytes in a plane of 157 cells a row. -/
def cell157? (lead trail : Nat) : Option Nat :=
  if !within 0xa1 0xfe lead then none
  else if within 0x40 0x7e trail then some ((lead - 0xa1) * 157 + (trail - 0x40))
  else if within 0xa1 0xfe trail then some ((lead - 0xa1) * 157 + 63 + (trail - 0xa1))
  else none

def jisx0208Cells : Array Char := jisx0208.cells

def jisx0212Cells : Array Char := jisx0212.cells

def windows31jCells : Array Char := Encoding.windows31j.cells

def gb2312Cells : Array Char := Encoding.gb2312.cells

def ksx1001Cells : Array Char := ksx1001.cells

def big5Cells : Array Char := Encoding.big5.cells

def cp950Cells : Array Char := cp950.cells

/-- The ideographs that GB 2312 lacks. -/
def otherIdeographs : Array Char := Plane.absent gb2312Cells 0x4e00 0x9fa5

/-- The syllables that KS X 1001 lacks. -/
def otherSyllables : Array Char := Plane.absent ksx1001Cells 0xac00 0xd7a3

/-- The character of a code in texts that hold the characters of consecutive codes. -/
def inRuns? (runs : List (Nat × String)) (code : Nat) : Option Char :=
  runs.findSome? fun (start, text) => if code < start then none else text.toList[code - start]?

def noSingle : Single := fun _ => none

/-- The halfwidth forms of katakana. -/
def halfwidth? (byte : Nat) : Option Char :=
  if within 0xa1 0xdf byte then some (Char.ofNat (0xff61 + (byte - 0xa1))) else none

def shiftJisPair : Pair := fun lead trail =>
  (packedCell? lead trail).bind (Plane.charAt? jisx0208Cells)

def windows31jSingle : Single := fun byte =>
  if byte == 0x80 then some (Char.ofNat 0x80)
  else if byte == 0xa0 then some (Char.ofNat 0xf8f0)
  else if within 0xfd 0xff byte then some (Char.ofNat (0xf8f1 + (byte - 0xfd)))
  else halfwidth? byte

/-- Ten leads are left to private use. -/
def windows31jPair : Pair := fun lead trail => do
  let cell ← packedCell? lead trail
  if within 0xf0 0xf9 lead then some (Char.ofNat (0xe000 + (cell - (0xf0 - 0xc1) * 188)))
  else (Plane.charAt? windows31jCells cell).or (Plane.charAt? jisx0208Cells cell)

def gb2312Pair : Pair := fun lead trail =>
  (cell94? lead trail).bind (Plane.charAt? gb2312Cells)

/-- The ideographs that GB 2312 lacks fill the pairs on both sides of its plane in order. -/
def otherIdeograph? (lead trail : Nat) : Option Char :=
  if !(within 0x40 0xfe trail && trail != 0x7f) then none
  else if within 0x81 0xa0 lead then
    otherIdeographs[(lead - 0x81) * 190 + trailPlace trail]?
  else if within 0xaa 0xfe lead && trail ≤ 0xa0 then
    otherIdeographs[32 * 190 + (lead - 0xaa) * 96 + trailPlace trail]?
  else none

def gbkPair : Pair := fun lead trail =>
  (inRuns? gbkSymbols (lead * 256 + trail)).or
    ((gb2312Pair lead trail).or (otherIdeograph? lead trail))

/-- A pair that is left to private use. -/
def privatePair? (code : Nat) : Option Char :=
  gb18030Private.findSome? fun (start, first, count) =>
    if start ≤ code && code < start + count then some (Char.ofNat (first + (code - start)))
    else none

def gb18030Pair : Pair := fun lead trail =>
  let code := lead * 256 + trail
  (gbkPair lead trail).or ((inRuns? gb18030Symbols code).or (privatePair? code))

/-- The number of code points below 0x10000 that take four bytes. -/
def fourByteCount : Nat := 39420

/-- The place of 0x10000 among the sequences of four bytes. -/
def fourByteAstral : Nat := 189000

/-- The character at a place among the sequences of four bytes. -/
def fourByteChar? (place : Nat) : Option Char :=
  if place < fourByteCount then
    let range? := gb18030Ranges.reverse.find? fun (start, _) => start ≤ place
    range?.map fun (start, first) => Char.ofNat (first + (place - start))
  else if place < fourByteAstral then none
  else
    let code := 0x10000 + (place - fourByteAstral)
    if code ≤ 0x10ffff then some (Char.ofNat code) else none

/-- A sequence of four bytes, which a digit in the second place tells. -/
def fourBytes? : List Nat → Option Char
  | [a, b, c, d] =>
    if within 0x81 0xfe a && within 0x30 0x39 b && within 0x81 0xfe c && within 0x30 0x39 d then
      fourByteChar? (((a - 0x81) * 10 + (b - 0x30)) * 1260 + (c - 0x81) * 10 + (d - 0x30))
    else none
  | _ => none

def big5Pair : Pair := fun lead trail =>
  (cell157? lead trail).bind (Plane.charAt? big5Cells)

def windows950Pair : Pair := fun lead trail =>
  (cell157? lead trail).bind fun cell =>
    (Plane.charAt? cp950Cells cell).or (Plane.charAt? big5Cells cell)

def ksx1001Pair : Pair := fun lead trail =>
  (cell94? lead trail).bind (Plane.charAt? ksx1001Cells)

/-- The place of a second byte among capital letters, small letters and bytes from 0x81 on. -/
def letterPlace? (trail : Nat) : Option Nat :=
  if within 0x41 0x5a trail then some (trail - 0x41)
  else if within 0x61 0x7a trail then some (trail - 0x61 + 26)
  else if within 0x81 0xfe trail then some (trail - 0x81 + 52)
  else none

/-- The syllables that KS X 1001 lacks fill the pairs around its plane in order. -/
def otherSyllable? (lead trail : Nat) : Option Char := do
  let place ← letterPlace? trail
  if within 0x81 0xa0 lead then otherSyllables[(lead - 0x81) * 178 + place]?
  else if within 0xa1 0xc6 lead && place < 84 then
    otherSyllables[32 * 178 + (lead - 0xa1) * 84 + place]?
  else none

def windows949Pair : Pair := fun lead trail =>
  (ksx1001Pair lead trail).or (otherSyllable? lead trail)

/-- The second bytes of the letters that begin a syllable. -/
def initials : List Nat :=
  [0xa1, 0xa2, 0xa4, 0xa7, 0xa8, 0xa9, 0xb1, 0xb2, 0xb3, 0xb5, 0xb6, 0xb7, 0xb8, 0xb9, 0xba, 0xbb,
   0xbc, 0xbd, 0xbe]

/-- The second bytes of the letters that end a syllable, after the one that stands for none. -/
def finals : List Nat :=
  [0xd4, 0xa1, 0xa2, 0xa3, 0xa4, 0xa5, 0xa6, 0xa7, 0xa9, 0xaa, 0xab, 0xac, 0xad, 0xae, 0xaf, 0xb0,
   0xb1, 0xb2, 0xb4, 0xb5, 0xb6, 0xb7, 0xb8, 0xba, 0xbb, 0xbc, 0xbd, 0xbe]

/-- A syllable that is spelled by its letters, four pairs of which the first is a filler. -/
def spelled? : List Nat → Option Char
  | [0xa4, 0xd4, 0xa4, first, 0xa4, middle, 0xa4, last] => do
    let start ← initials.idxOf? first
    let stop ← finals.idxOf? last
    if within 0xbf 0xd3 middle then
      some (Char.ofNat (0xac00 + start * 588 + (middle - 0xbf) * 28 + stop))
    else none
  | _ => none

/-- A character of ASCII or another single one in one byte, else a character in two. -/
def pairStep (single : Single) (pair : Pair) : Step
  | [] => none
  | lead :: rest =>
    if lead.toNat < 0x80 then some (Char.ofNat lead.toNat, 1)
    else
      match single lead.toNat, rest with
      | some c, _ => some (c, 1)
      | none, [] => none
      | none, trail :: _ => (pair lead.toNat trail.toNat).map fun c => (c, 2)

/-- Bytes that a shift byte leads: halfwidth katakana, or a pair of the second plane. -/
def eucJpStep : Step
  | 0x8e :: b :: _ => (halfwidth? b.toNat).map fun c => (c, 2)
  | 0x8f :: a :: b :: _ =>
    ((cell94? a.toNat b.toNat).bind (Plane.charAt? jisx0212Cells)).map fun c => (c, 3)
  | bytes =>
    pairStep noSingle (fun a b => (cell94? a b).bind (Plane.charAt? jisx0208Cells)) bytes

def gb18030Step : Step := fun bytes =>
  match bytes with
  | a :: b :: _ =>
    if 0x80 ≤ a.toNat && within 0x30 0x39 b.toNat then
      (fourBytes? ((bytes.take 4).map UInt8.toNat)).map fun c => (c, 4)
    else pairStep noSingle gb18030Pair bytes
  | _ => pairStep noSingle gb18030Pair bytes

/-- The filler always begins a syllable that is spelled. -/
def eucKrStep : Step := fun bytes =>
  match bytes with
  | 0xa4 :: 0xd4 :: _ => (spelled? ((bytes.take 8).map UInt8.toNat)).map fun c => (c, 8)
  | _ => pairStep noSingle ksx1001Pair bytes

def step : Charset → Step
  | .shiftJis => pairStep halfwidth? shiftJisPair
  | .windows31j => pairStep windows31jSingle windows31jPair
  | .eucJp => eucJpStep
  | .gb2312 => pairStep noSingle gb2312Pair
  | .gbk => pairStep noSingle gbkPair
  | .gb18030 => gb18030Step
  | .big5 => pairStep noSingle big5Pair
  | .windows950 => pairStep noSingle windows950Pair
  | .eucKr => eucKrStep
  | .windows949 => pairStep noSingle windows949Pair

end Charset

end JavaAtlas.Encoding
