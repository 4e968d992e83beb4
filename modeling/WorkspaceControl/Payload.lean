/-
**Job payloads.**

The JSON values that job payloads are made of.  The job code only ever looks at an object and,
under `runtime_wait`, at one object inside it; deeper values are kept as text.  An object is the
list of its fields in the order of its text, so two payloads are equal exactly when their texts
are; `serde_json` keeps the fields sorted by key.

Main definitions: `Payload.get`, `Payload.insert`, `Payload.remove`, and `runtimeWait`, the marker
that a parked job carries.

Main results: `Payload.get_insert_self`, `Payload.get_insert_of_ne`, `Payload.get_remove_self`,
`Payload.get_remove_of_ne`, `runtimeWait_injective`.
-/
import WorkspaceControl.Workspace

set_option autoImplicit false

namespace WorkspaceControl

open MachineInt

/-- A JSON value without fields; `raw` is the text of a value that no code looks into. -/
inductive JsonScalar
  | null
  | bool (value : Bool)
  | int (value : ℤ)
  | str (value : String)
  | raw (text : String)
deriving DecidableEq

/-- A field of a payload. -/
inductive JsonValue
  | scalar (value : JsonScalar)
  | object (fields : List (String × JsonScalar))
deriving DecidableEq

/-- The payload of a job: an object, or some other value. -/
inductive Payload
  | object (fields : List (String × JsonValue))
  | other (value : JsonScalar)
deriving DecidableEq

namespace JsonScalar

/-- `Value::as_str`. -/
def asStr : JsonScalar → Option String
  | str value => some value
  | _ => none

/-- `Value::as_i64`. -/
def asI64 : JsonScalar → Option ℤ
  | int value => if I64.min ≤ value ∧ value ≤ I64.max then some value else none
  | _ => none

/-- `Value::as_u64`. -/
def asU64 : JsonScalar → Option ℕ
  | int value => if 0 ≤ value ∧ value < U64.size then some value.toNat else none
  | _ => none

/-- `Value::as_bool`. -/
def asBool : JsonScalar → Option Bool
  | bool value => some value
  | _ => none

end JsonScalar

namespace JsonValue

/-- The value, when it has no fields. -/
def toScalar : JsonValue → Option JsonScalar
  | scalar value => some value
  | object _ => none

def asStr (value : JsonValue) : Option String := value.toScalar.bind JsonScalar.asStr

def asI64 (value : JsonValue) : Option ℤ := value.toScalar.bind JsonScalar.asI64

def asU64 (value : JsonValue) : Option ℕ := value.toScalar.bind JsonScalar.asU64

def asBool (value : JsonValue) : Option Bool := value.toScalar.bind JsonScalar.asBool

/-- `Value::as_object`. -/
def asObject : JsonValue → Option (List (String × JsonScalar))
  | scalar _ => none
  | object fields => some fields

end JsonValue

/-! ### Fields -/

section Fields

variable {τ : Type}

/-- Insertion into a map sorted by key. -/
def insertField (key : String) (value : τ) : List (String × τ) → List (String × τ)
  | [] => [(key, value)]
  | field :: rest =>
    if key = field.1 then (key, value) :: rest
    else if key < field.1 then (key, value) :: field :: rest
    else field :: insertField key value rest

theorem lookup_insertField_self (key : String) (value : τ) (fields : List (String × τ)) :
    (insertField key value fields).lookup key = some value := by
  induction fields with
  | nil => simp [insertField]
  | cons field rest ih =>
    unfold insertField
    split
    · simp
    · rename_i hne
      split
      · simp
      · rw [List.lookup_cons, beq_eq_false_iff_ne.2 hne]
        exact ih

theorem lookup_insertField_of_ne {key other : String} (hne : other ≠ key) (value : τ)
    (fields : List (String × τ)) :
    (insertField key value fields).lookup other = fields.lookup other := by
  have hbeq : (other == key) = false := beq_eq_false_iff_ne.2 hne
  induction fields with
  | nil => simp [insertField, hne]
  | cons field rest ih =>
    unfold insertField
    split
    · rename_i hkey
      rw [List.lookup_cons, List.lookup_cons, hbeq, ← hkey, hbeq]
    · split
      · rw [List.lookup_cons, hbeq]
      · rw [List.lookup_cons, List.lookup_cons, ih]

/-- Removal of a key. -/
def removeField (key : String) (fields : List (String × τ)) : List (String × τ) :=
  fields.filter fun field => field.1 ≠ key

theorem lookup_removeField_self (key : String) (fields : List (String × τ)) :
    (removeField key fields).lookup key = none := by
  rw [List.lookup_eq_none_iff]
  intro field hfield
  have hne : field.1 ≠ key := by simpa using (List.mem_filter.1 hfield).2
  simpa using hne.symm

theorem lookup_removeField_of_ne {key other : String} (hne : other ≠ key)
    (fields : List (String × τ)) :
    (removeField key fields).lookup other = fields.lookup other := by
  unfold removeField
  induction fields with
  | nil => rfl
  | cons field rest ih =>
    by_cases hkey : field.1 = key
    · have hbeq : (other == field.1) = false := beq_eq_false_iff_ne.2 (hkey ▸ hne)
      rw [List.filter_cons_of_neg (by simpa using hkey), ih, List.lookup_cons, hbeq]
    · rw [List.filter_cons_of_pos (by simpa using hkey), List.lookup_cons, List.lookup_cons, ih]

end Fields

/-! ### Payloads -/

namespace Payload

/-- `Value::get`: a field of an object. -/
def get : Payload → String → Option JsonValue
  | object fields, key => fields.lookup key
  | other _, _ => none

/-- `Map::insert` on an object. -/
def insert (key : String) (value : JsonValue) : Payload → Payload
  | object fields => object (insertField key value fields)
  | other value => other value

/-- `payload[key] = value`: null becomes an object; any other value would panic, and no job has
one. -/
def setIndex (key : String) (value : JsonValue) : Payload → Payload
  | other .null => object [(key, value)]
  | payload => payload.insert key value

/-- `Map::remove` on an object. -/
def remove (key : String) : Payload → Payload
  | object fields => object (removeField key fields)
  | other value => other value

/-- The payload is an object. -/
def isObject : Payload → Bool
  | object _ => true
  | other _ => false

@[simp] theorem get_insert_self {payload : Payload} (h : payload.isObject = true) (key : String)
    (value : JsonValue) : (payload.insert key value).get key = some value := by
  cases payload with
  | object fields => exact lookup_insertField_self key value fields
  | other value => cases h

theorem get_insert_of_ne {key other : String} (hne : other ≠ key) (payload : Payload)
    (value : JsonValue) : (payload.insert key value).get other = payload.get other := by
  cases payload with
  | object fields => exact lookup_insertField_of_ne hne value fields
  | other value => rfl

@[simp] theorem get_remove_self (payload : Payload) (key : String) :
    (payload.remove key).get key = none := by
  cases payload with
  | object fields => exact lookup_removeField_self key fields
  | other value => rfl

theorem get_remove_of_ne {key other : String} (hne : other ≠ key) (payload : Payload) :
    (payload.remove key).get other = payload.get other := by
  cases payload with
  | object fields => exact lookup_removeField_of_ne hne fields
  | other value => rfl

end Payload

/-! ### The marker of a park -/

/-- `{"nonce": nonce, "until": until}`. -/
def runtimeWait (nonce : Uuid) («until» : ℤ) : JsonValue :=
  .object [("nonce", .str nonce.text), ("until", .int «until»)]

theorem runtimeWait_injective {nonce nonce' : Uuid} {t t' : ℤ}
    (h : runtimeWait nonce t = runtimeWait nonce' t') : nonce = nonce' ∧ t = t' := by
  simp only [runtimeWait, JsonValue.object.injEq, List.cons.injEq, Prod.mk.injEq,
    JsonScalar.str.injEq, JsonScalar.int.injEq] at h
  exact ⟨Uuid.text_injective h.1.2, h.2.1.2⟩

end WorkspaceControl
