namespace Warrant

/-- Distinct strings, each known by its position. -/
structure SymbolTable where
  names : List String
  nodup : names.Nodup

namespace SymbolTable

instance : DecidableEq SymbolTable := fun a b =>
  decidable_of_iff (a.names = b.names) (by cases a; cases b; simp)

def empty : SymbolTable := ⟨[], List.nodup_nil⟩

instance : Inhabited SymbolTable := ⟨empty⟩

def size (table : SymbolTable) : Nat := table.names.length

/-- The position of a string. -/
def find? (table : SymbolTable) (name : String) : Option UInt64 :=
  (table.names.idxOf? name).map UInt64.ofNat

/-- The string at a position. -/
def resolve? (table : SymbolTable) (symbol : UInt64) : Option String :=
  table.names[symbol.toNat]?

/-- Appends a string, unless the table has it. -/
def insert (table : SymbolTable) (name : String) : SymbolTable :=
  if h : name ∈ table.names then table
  else ⟨table.names ++ [name], by
    simp only [List.nodup_append, table.nodup, List.nodup_cons, List.not_mem_nil,
      not_false_eq_true, List.nodup_nil, and_self, List.mem_singleton, true_and]
    rintro a ha b rfl hab
    exact h (hab ▸ ha)⟩

theorem insert_of_mem {table : SymbolTable} {name : String} (h : name ∈ table.names) :
    table.insert name = table := by
  simp [insert, h]

theorem names_insert_of_not_mem {table : SymbolTable} {name : String} (h : name ∉ table.names) :
    (table.insert name).names = table.names ++ [name] := by
  simp [insert, h]

@[simp]
theorem mem_names_insert {table : SymbolTable} {name other : String} :
    other ∈ (table.insert name).names ↔ other ∈ table.names ∨ other = name := by
  by_cases h : name ∈ table.names
  · rw [insert_of_mem h]
    constructor
    · exact Or.inl
    · rintro (hother | rfl)
      · exact hother
      · exact h
  · simp [names_insert_of_not_mem h]

/-- Appending strings never moves one that the table has. -/
theorem names_prefix_insert (table : SymbolTable) (name : String) :
    table.names <+: (table.insert name).names := by
  by_cases h : name ∈ table.names
  · exact ⟨[], by simp [insert_of_mem h]⟩
  · exact ⟨[name], by simp [names_insert_of_not_mem h]⟩

/-- The position of a string, which is appended if the table does not have it. -/
def intern (name : String) : StateM SymbolTable UInt64 := fun table =>
  match table.find? name with
  | some symbol => (symbol, table)
  | none => (UInt64.ofNat table.size, table.insert name)

/-- Appends the strings of another table that this one does not have. -/
def extend (table other : SymbolTable) : SymbolTable :=
  other.names.foldl insert table

/-- The table of some strings, each at the place where it first occurs. -/
def ofList (names : List String) : SymbolTable :=
  names.foldl insert empty

/-- The strings after the first `count`. -/
def drop (table : SymbolTable) (count : Nat) : SymbolTable :=
  ⟨table.names.drop count, table.nodup.sublist (List.drop_sublist count table.names)⟩

def isDisjoint (table other : SymbolTable) : Bool :=
  other.names.all fun name => (table.find? name).isNone

/-- The strings that every table starts with and that no token carries. -/
def standard : SymbolTable :=
  ofList ["authority", "ambient", "resource", "operation", "right", "current_time",
    "revocation_id"]

/-- The string at a position, or the position itself where there is none. -/
def name (table : SymbolTable) (symbol : UInt64) : String :=
  match table.resolve? symbol with
  | some name => name
  | none => "<" ++ toString symbol.toNat ++ "?>"

end SymbolTable

end Warrant
