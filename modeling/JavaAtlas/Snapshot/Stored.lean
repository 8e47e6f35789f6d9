import JavaAtlas.Declaration
import JavaAtlas.Snapshot.Datum
import JavaAtlas.Value

/-! Values as data. What is stored of a value is enough to have the value back. -/

namespace JavaAtlas.Snapshot

/-- Values that can be stored as data and had back. -/
class Stored (α : Type) where
  store : α → Datum
  restore : Datum → Option α
  restore_store (a : α) : restore (store a) = some a

export Stored (store restore)

namespace Stored

/-- Values that are as good as values of another type, which they may be read from. -/
@[reducible] def via {α β : Type} [Stored β] (forth : α → β) (back : β → Option α)
    (h : ∀ a, back (forth a) = some a) : Stored α where
  store a := store (forth a)
  restore d := (restore d).bind back
  restore_store a := by rw [restore_store]; exact h a

instance : Stored Nat where
  store := .number
  restore
    | .number n => some n
    | .row _ => none
  restore_store _ := rfl

instance : Stored Bool :=
  via (fun b => if b then 1 else 0) (fun n : Nat => some (n == 1)) (by decide)

instance : Stored Char :=
  via Char.toNat (fun n => some (Char.ofNat n)) fun c => by simp

instance : Stored UInt64 :=
  via UInt64.toNat (fun n => some (UInt64.ofNat n)) fun n => by simp

/-- Restores the items of a row. -/
def restoreAll {α : Type} [Stored α] : List Datum → Option (List α)
  | [] => some []
  | d :: ds => do
    let a ← restore d
    return a :: (← restoreAll ds)

theorem restoreAll_map_store {α : Type} [Stored α] (as : List α) :
    restoreAll (as.map store) = some as := by
  induction as with
  | nil => rfl
  | cons a as ih => simp [restoreAll, restore_store, ih]

instance {α : Type} [Stored α] : Stored (List α) where
  store as := .row (as.map store)
  restore
    | .row ds => restoreAll ds
    | .number _ => none
  restore_store as := restoreAll_map_store as

instance {α β : Type} [Stored α] [Stored β] : Stored (α × β) where
  store p := .row [store p.1, store p.2]
  restore
    | .row [a, b] => do return (← restore a, ← restore b)
    | _ => none
  restore_store p := by simp [restore_store]

instance {α : Type} [Stored α] : Stored (Option α) :=
  via Option.toList (fun as => some as.head?) fun a => by cases a <;> rfl

instance : Stored String :=
  via String.toList (fun cs => some (String.ofList cs)) fun s => by simp

instance : Stored Int :=
  via (fun n => (decide (n < 0), n.natAbs))
    (fun (p : Bool × Nat) => some (if p.1 then -(p.2 : Int) else p.2)) fun n => by
      by_cases h : n < 0
      · simp only [h, decide_true, if_true, Option.some.injEq]; omega
      · simp only [h, decide_false, Option.some.injEq, Bool.false_eq_true, if_false]; omega

instance : Stored TypeSpec :=
  via (fun t => (t.name, t.dims)) (fun p => some ⟨p.1, p.2⟩) fun _ => rfl

instance : Stored FieldDecl :=
  via (fun f => (f.name, f.type, f.modifiers)) (fun p => some ⟨p.1, p.2.1, p.2.2⟩) fun _ => rfl

instance : Stored ParamDecl :=
  via (fun f => (f.name, f.type, f.variadic)) (fun p => some ⟨p.1, p.2.1, p.2.2⟩) fun _ => rfl

instance : Stored MethodDecl :=
  via (fun m => (m.name, m.returns, m.params, m.modifiers, m.isConstructor, m.throws))
    (fun p => some ⟨p.1, p.2.1, p.2.2.1, p.2.2.2.1, p.2.2.2.2.1, p.2.2.2.2.2⟩) fun _ => rfl

/-- A kind is stored as a number or, if it is another kind, as its word. -/
def kindOf? : Nat × String → Option TypeKind
  | (0, _) => some .classType
  | (1, _) => some .interfaceType
  | (2, _) => some .enumType
  | (3, _) => some .annotationType
  | (_, word) => some (.other word)

instance : Stored TypeKind :=
  via (fun
    | .classType => (0, "")
    | .interfaceType => (1, "")
    | .enumType => (2, "")
    | .annotationType => (3, "")
    | .other word => (4, word)) kindOf? fun k => by cases k <;> rfl

/-- A type declaration without its member types. -/
abbrev TypeHead : Type :=
  TypeKind × String × List String × Option TypeSpec × List TypeSpec × List FieldDecl ×
    List MethodDecl × Option Int

mutual

def storeType : TypeDecl → Datum
  | { kind, name, modifiers, superclass, interfaces, fields, methods, nested, line } =>
    .row [.row (storeTypes nested),
      store (α := TypeHead)
        (kind, name, modifiers, superclass, interfaces, fields, methods, line)]

def storeTypes : List TypeDecl → List Datum
  | [] => []
  | t :: ts => storeType t :: storeTypes ts

end

mutual

def restoreType : Datum → Option TypeDecl
  | .row [.row nested, head] => do
    let nested ← restoreTypes nested
    let (kind, name, modifiers, superclass, interfaces, fields, methods, line) ←
      restore (α := TypeHead) head
    return { kind, name, modifiers, superclass, interfaces, fields, methods, nested, line }
  | _ => none

def restoreTypes : List Datum → Option (List TypeDecl)
  | [] => some []
  | d :: ds => do
    let t ← restoreType d
    return t :: (← restoreTypes ds)

end

mutual

theorem restoreType_storeType (t : TypeDecl) : restoreType (storeType t) = some t := by
  match t with
  | { nested, .. } =>
    simp [storeType, restoreType, restore_store, restoreTypes_storeTypes nested]

theorem restoreTypes_storeTypes (ts : List TypeDecl) : restoreTypes (storeTypes ts) = some ts := by
  match ts with
  | [] => rfl
  | t :: ts =>
    simp [storeTypes, restoreTypes, restoreType_storeType t, restoreTypes_storeTypes ts]

end

instance : Stored TypeDecl := ⟨storeType, restoreType, restoreType_storeType⟩

instance : Stored Date :=
  via (fun d => (d.year, d.month, d.day)) (fun p => some ⟨p.1, p.2.1, p.2.2⟩) fun _ => rfl

instance : Stored TimeOfDay :=
  via (fun t => (t.hour, t.minute, t.second, t.micros))
    (fun p => some ⟨p.1, p.2.1, p.2.2.1, p.2.2.2⟩) fun _ => rfl

/-- A moment has a day, a time or both. -/
def momentOf? : Option Date × Option TimeOfDay × Option Int → Option Moment
  | (some d, none, _) => some (.date d)
  | (none, some t, _) => some (.time t)
  | (some d, some t, offset) => some (.dateTime d t offset)
  | (none, none, _) => none

instance : Stored Moment :=
  via (fun
    | .date d => (some d, none, none)
    | .time t => (none, some t, none)
    | .dateTime d t offset => (some d, some t, offset)) momentOf? fun m => by cases m <;> rfl

mutual

/-- A value is stored as a number for its sort and what it consists of. -/
def storeValue : Value → Datum
  | .null => .row [.number 0]
  | .bool b => .row [.number 1, store b]
  | .int n => .row [.number 2, store n]
  | .float bits => .row [.number 3, store bits]
  | .text s => .row [.number 4, store s]
  | .moment m => .row [.number 5, store m]
  | .list items => .row [.number 6, .row (storeValues items)]
  | .table fields => .row [.number 7, .row (storeFields fields)]

def storeValues : List Value → List Datum
  | [] => []
  | v :: vs => storeValue v :: storeValues vs

def storeFields : List (String × Value) → List Datum
  | [] => []
  | (key, v) :: fields => .row [storeValue v, store key] :: storeFields fields

end

mutual

def restoreValue : Datum → Option Value
  | .row [.number 0] => some .null
  | .row [.number 1, d] => (restore d).map .bool
  | .row [.number 2, d] => (restore d).map .int
  | .row [.number 3, d] => (restore d).map .float
  | .row [.number 4, d] => (restore d).map .text
  | .row [.number 5, d] => (restore d).map .moment
  | .row [.number 6, .row items] => (restoreValues items).map .list
  | .row [.number 7, .row fields] => (restoreFields fields).map .table
  | _ => none

def restoreValues : List Datum → Option (List Value)
  | [] => some []
  | d :: ds => do
    let v ← restoreValue d
    return v :: (← restoreValues ds)

def restoreFields : List Datum → Option (List (String × Value))
  | [] => some []
  | .row [d, key] :: ds => do
    let v ← restoreValue d
    let key ← restore key
    return (key, v) :: (← restoreFields ds)
  | _ => none

end

mutual

theorem restoreValue_storeValue (v : Value) : restoreValue (storeValue v) = some v := by
  match v with
  | .null => rfl
  | .bool b => simp [storeValue, restoreValue, restore_store]
  | .int n => simp [storeValue, restoreValue, restore_store]
  | .float bits => simp [storeValue, restoreValue, restore_store]
  | .text s => simp [storeValue, restoreValue, restore_store]
  | .moment m => simp [storeValue, restoreValue, restore_store]
  | .list items => simp [storeValue, restoreValue, restoreValues_storeValues items]
  | .table fields => simp [storeValue, restoreValue, restoreFields_storeFields fields]

theorem restoreValues_storeValues (vs : List Value) : restoreValues (storeValues vs) = some vs := by
  match vs with
  | [] => rfl
  | v :: vs =>
    simp [storeValues, restoreValues, restoreValue_storeValue v, restoreValues_storeValues vs]

theorem restoreFields_storeFields (fields : List (String × Value)) :
    restoreFields (storeFields fields) = some fields := by
  match fields with
  | [] => rfl
  | (key, v) :: fields =>
    simp [storeFields, restoreFields, restoreValue_storeValue v, restore_store,
      restoreFields_storeFields fields]

end

instance : Stored Value := ⟨storeValue, restoreValue, restoreValue_storeValue⟩

end Stored

end JavaAtlas.Snapshot
