/-! The bytes of stored data. Everything that is stored is first a tree of numbers, and a tree is
written so that it can be read back without knowing where it ends: `Datum.read_write`. -/

namespace JavaAtlas.Snapshot

/-- A number, or a row of further data. -/
inductive Datum where
  | number (n : Nat)
  | row (items : List Datum)
deriving Repr, BEq, Inhabited

/-- A number in bytes of seven bits each, the least significant first. The high bit says that more
bytes follow. -/
def numberBytes (n : Nat) : List UInt8 :=
  if n < 128 then [UInt8.ofNat n]
  else UInt8.ofNat (n % 128 + 128) :: numberBytes (n / 128)
termination_by n
decreasing_by omega

/-- Reads a number and leaves what follows it. -/
def readNumber : List UInt8 → Option (Nat × List UInt8)
  | [] => none
  | b :: bytes =>
    if b.toNat < 128 then some (b.toNat, bytes)
    else (readNumber bytes).map fun (n, rest) => (n * 128 + (b.toNat - 128), rest)

theorem readNumber_numberBytes (n : Nat) (rest : List UInt8) :
    readNumber (numberBytes n ++ rest) = some (n, rest) := by
  induction n using Nat.strongRecOn with
  | _ n ih =>
    rw [numberBytes]
    split
    · next h => simp [readNumber, Nat.mod_eq_of_lt (show n < 256 by omega), h]
    · next h =>
      have hb : (n % 128 + 128) % 256 = n % 128 + 128 := by omega
      simp only [List.cons_append, readNumber, UInt8.toNat_ofNat', hb, ih (n / 128) (by omega)]
      rw [if_neg (by omega)]
      simp only [Option.map_some, Option.some.injEq, Prod.mk.injEq, and_true]
      omega

namespace Datum

mutual

/-- The bytes of a datum: a zero and the number, or a one, the length of the row and its items. -/
def write : Datum → List UInt8
  | .number n => 0 :: numberBytes n
  | .row items => 1 :: (numberBytes items.length ++ writeAll items)

def writeAll : List Datum → List UInt8
  | [] => []
  | d :: ds => d.write ++ writeAll ds

end

mutual

/-- The number of nested rows, and one. -/
def depth : Datum → Nat
  | .number _ => 1
  | .row items => depthAll items + 1

def depthAll : List Datum → Nat
  | [] => 1
  | d :: ds => max d.depth (depthAll ds) + 1

end

/-- Reads items one after the other. -/
def readItems (item : List UInt8 → Option (Datum × List UInt8)) :
    Nat → List UInt8 → Option (List Datum × List UInt8)
  | 0, bytes => some ([], bytes)
  | n + 1, bytes => do
    let (d, rest) ← item bytes
    let (ds, rest) ← readItems item n rest
    return (d :: ds, rest)

/-- Reads a datum in which rows are nested at most so deep, and leaves what follows it. -/
def read : Nat → List UInt8 → Option (Datum × List UInt8)
  | 0, _ => none
  | _, [] => none
  | bound + 1, b :: bytes =>
    if b == 0 then (readNumber bytes).map fun (n, rest) => (.number n, rest)
    else if b == 1 then do
      let (n, rest) ← readNumber bytes
      let (items, rest) ← readItems (read bound) n rest
      return (.row items, rest)
    else none

mutual

theorem read_write (d : Datum) (bound : Nat) (rest : List UInt8) (h : d.depth ≤ bound) :
    read bound (d.write ++ rest) = some (d, rest) := by
  match d, bound with
  | .number n, 0 => simp [depth] at h
  | .row items, 0 => simp [depth] at h
  | .number n, bound + 1 => simp [write, read, readNumber_numberBytes]
  | .row items, bound + 1 =>
    simp only [depth, Nat.add_le_add_iff_right] at h
    simp [write, read, List.append_assoc, readNumber_numberBytes,
      readItems_writeAll items bound rest h]

theorem readItems_writeAll (ds : List Datum) (bound : Nat) (rest : List UInt8)
    (h : depthAll ds ≤ bound) :
    readItems (read bound) ds.length (writeAll ds ++ rest) = some (ds, rest) := by
  match ds with
  | [] => simp [writeAll, readItems]
  | d :: ds =>
    simp only [depthAll] at h
    simp [writeAll, readItems, List.append_assoc, read_write d bound _ (by omega),
      readItems_writeAll ds bound rest (by omega)]

end

mutual

/-- A datum takes more bytes than rows are nested in it. -/
theorem depth_le_length (d : Datum) : d.depth ≤ d.write.length := by
  match d with
  | .number n => simp [depth, write]
  | .row items =>
    have h := depthAll_le_length items
    have hn : 0 < (numberBytes items.length).length := by
      rw [numberBytes]; split <;> simp
    simp only [depth, write, List.length_cons, List.length_append]
    omega

theorem depthAll_le_length (ds : List Datum) : depthAll ds ≤ (writeAll ds).length + 1 := by
  match ds with
  | [] => simp [depthAll]
  | d :: ds =>
    have h := depth_le_length d
    have hs := depthAll_le_length ds
    have hd : 0 < d.depth := by cases d <;> simp [depth]
    simp only [depthAll, writeAll, List.length_append]
    omega

end

end Datum

end JavaAtlas.Snapshot
