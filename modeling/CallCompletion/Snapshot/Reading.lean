import CallCompletion.Request.Check
import CallCompletion.Snapshot.Model

/-!
# Reading snapshots

Snapshots arrive as values. Types, signatures and parameters are nested in each other, and a value
is larger than those in it, so that reading ends.
-/

namespace CallCompletion.Snapshot

open CallCompletion.Data
open CallCompletion.Request

theorem sizeOf_lt_of_get? {record : Table Value} {name : String} {v : Value}
    (h : record.get? name = some v) : sizeOf v < sizeOf (Value.table record) := by
  have hlt := List.sizeOf_lt_of_mem (Table.mem_of_get? h)
  have hpair : sizeOf (name, v) = 1 + sizeOf name + sizeOf v := by simp
  have htable : sizeOf (Value.table record) = 1 + sizeOf record := by simp
  omega

theorem sizeOf_lt_of_mem_items {items : List Value} {v : Value} (h : v ∈ items) :
    sizeOf v < sizeOf (Value.list items) := by
  have hlt := List.sizeOf_lt_of_mem h
  have hlist : sizeOf (Value.list items) = 1 + sizeOf items := by simp
  omega

def readTypeKind : Value → Checked TypeKind
  | .text s =>
    match TypeKind.all.find? (·.name == s) with
    | some kind => .valid kind
    | none => .wrong (.notOneOf (TypeKind.all.map TypeKind.name))
  | _ => .wrong (.notOneOf (TypeKind.all.map TypeKind.name))

mutual

def readType (v : Value) : Checked TypeSnapshot :=
  match v with
  | .table record =>
    TypeSnapshot.mk <$>
      fieldOr record "kind" .other (fun v _ ↦ readTypeKind v) <*>
      fieldOr record "printed" "" (fun v _ ↦ text v) <*>
      fieldOr record "intrinsic" none (fun v _ ↦ nullable text v) <*>
      fieldOr record "enum_name" none (fun v _ ↦ nullable text v) <*>
      fieldOr record "enum_members" [] (fun v _ ↦ texts v) <*>
      fieldOr record "is_tuple" false (fun v _ ↦ bool v) <*>
      fieldOr record "anonymous" false (fun v _ ↦ bool v) <*>
      fieldOr record "call_signatures" [] (fun v _h ↦ readSignatures v)
  | _ => .wrong (.notRecord "TypeDTO")
termination_by sizeOf v
decreasing_by exact sizeOf_lt_of_get? _h

def readNullableType (v : Value) : Checked (Option TypeSnapshot) :=
  match v with
  | .null => .valid none
  | .table record => (readType (.table record)).map some
  | _ => .wrong (.notRecord "TypeDTO")
termination_by sizeOf v + 1

def readParameter (v : Value) : Checked ParameterSnapshot :=
  match v with
  | .table record =>
    ParameterOf.mk <$>
      required record "name" (fun v _ ↦ text v) <*>
      fieldOr record "type" none (fun v _h ↦ readNullableType v) <*>
      fieldOr record "documentation" "" (fun v _ ↦ text v)
  | _ => .wrong (.notRecord "ParameterDTO")
termination_by sizeOf v + 1
decreasing_by have := sizeOf_lt_of_get? _h; omega

def readParameters (v : Value) : Checked (List ParameterSnapshot) :=
  match v with
  | .list items => eachFrom 0 items fun v _h ↦ readParameter v
  | _ => .wrong .notList
termination_by sizeOf v + 1
decreasing_by have := sizeOf_lt_of_mem_items _h; omega

def readSignature (v : Value) : Checked SignatureSnapshot :=
  match v with
  | .table record =>
    SignatureOf.mk <$>
      fieldOr record "text" "" (fun v _ ↦ text v) <*>
      fieldOr record "parameters" [] (fun v _h ↦ readParameters v) <*>
      fieldOr record "min_argument_count" 0 (fun v _ ↦ integer v) <*>
      fieldOr record "return_type" none (fun v _h ↦ readNullableType v)
  | _ => .wrong (.notRecord "CallSignatureDTO")
termination_by sizeOf v + 1
decreasing_by
  · have := sizeOf_lt_of_get? _h; omega
  · have := sizeOf_lt_of_get? _h; omega

def readSignatures (v : Value) : Checked (List SignatureSnapshot) :=
  match v with
  | .list items => eachFrom 0 items fun v _h ↦ readSignature v
  | _ => .wrong .notList
termination_by sizeOf v
decreasing_by
  have := List.sizeOf_lt_of_mem _h
  simp
  omega

end

def readSymbol : Value → Checked SymbolSnapshot
  | .table record =>
    SymbolSnapshot.mk <$>
      required record "name" (fun v _ ↦ text v) <*>
      fieldOr record "kind" "function" (fun v _ ↦ text v) <*>
      fieldOr record "container" "" (fun v _ ↦ text v) <*>
      fieldOr record "modifiers" [] (fun v _ ↦ texts v) <*>
      fieldOr record "display" "" (fun v _ ↦ text v) <*>
      fieldOr record "documentation" "" (fun v _ ↦ text v) <*>
      fieldOr record "call_signatures" [] (fun v _ ↦ readSignatures v)
  | _ => .wrong (.notRecord "SymbolSnapshotDTO")

end CallCompletion.Snapshot
