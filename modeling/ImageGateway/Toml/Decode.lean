import ImageGateway.Toml.Basic

/-!
Taking values out of TOML trees. A structure is a table, whose unknown keys are passed over, or an
array of its fields in order, of which surplus items are passed over. Of the fields of a table that
have the wrong shape the first one in the text is reported, and a missing field only after them.
-/

namespace ImageGateway.Toml

abbrev Decoder (α : Type) := Toml → Except Mismatch α

def wrongType (wanted : String) (v : Toml) : Except Mismatch α :=
  .error (.wrongType v.found wanted)

/-- A string, under the name that the field's own type gives to it. -/
def asText (wanted : String) : Decoder String
  | string s => .ok s
  | v => wrongType wanted v

/-- An integer that is not negative. -/
def asNatural (wanted : String) : Decoder Nat
  | integer n => if 0 ≤ n then .ok n.toNat else .error (.wrongValue (.integer n) wanted)
  | v => wrongType wanted v

def asBoolean : Decoder Bool
  | boolean b => .ok b
  | v => wrongType "a boolean" v

/-- Looks at the shape alone. -/
def shape (f : Decoder α) : Decoder PUnit := fun v => (f v).map fun _ => ⟨⟩

/-- The first known field in the order of the entries that has the wrong shape. -/
def checkEntries (known : List (String × Decoder PUnit)) (es : Entries) : Except Mismatch PUnit :=
  es.forM fun e =>
    match known.lookup e.1 with
    | some f => f e.2
    | none => .ok ⟨⟩

/-- The value of a field, if the field is there. -/
def field? (name : String) (f : Decoder α) (es : Entries) : Except Mismatch (Option α) :=
  match es.lookup name with
  | some v => (f v).map some
  | none => .ok none

/-- The value of a field that has to be there. -/
def field (name : String) (f : Decoder α) (es : Entries) : Except Mismatch α := do
  match ← field? name f es with
  | some a => return a
  | none => throw (.missingField name)

/-- A structure by its name and its number of fields, from either of its two forms. -/
def asStruct (name : String) (ofEntries : Entries → Except Mismatch α)
    (ofItems : List Toml → Except Mismatch α) : Decoder α
  | table _ es => ofEntries es
  | moment => ofEntries []
  | array items => ofItems items
  | tables items => ofItems (items.map (table .header))
  | v => wrongType ("struct " ++ name) v

/-- The item at an index of an array that stands for a structure. -/
def item? (items : List Toml) (n : Nat) (f : Decoder α) : Except Mismatch (Option α) :=
  match items[n]? with
  | some v => (f v).map some
  | none => .ok none

/-- An item that has to be there, for a structure of `size` fields. -/
def item (wanted : String) (size : Nat) (items : List Toml) (n : Nat) (f : Decoder α) :
    Except Mismatch α := do
  match ← item? items n f with
  | some a => return a
  | none => throw (.tooShort n wanted size)

end ImageGateway.Toml
