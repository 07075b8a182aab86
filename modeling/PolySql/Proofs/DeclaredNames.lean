import PolySql.Declaration

/-!
# Which declarations are models

A declaration should be a model just if it is a structure with named fields and all its table and
column attributes hold nothing but names. All of this is checked, but for one thing: the first table
attribute with a name settles the table, and what other table attributes come after it is not looked
at.

* `Attribute.OnlyNames`, `Attribute.titles` : attributes of names in parentheses, and these names;
* `Declaration.WellFormed` : all attributes are in order;
* `Declaration.Readable` : all attributes that are looked at are in order;
* `Declaration.table`, `FieldDeclaration.column` : what the names come to;
* `Declaration.model_iff_readable` : the main statement.
-/

namespace PolySql

namespace Attribute

/-- In the parentheses of the attribute is nothing but `name = "…"`. -/
def OnlyNames : Attribute → Prop
  | .list _ items => ∀ item ∈ items, ∃ s, item = ("name", .string s)
  | _ => False

/-- A table attribute has to hold only names. -/
def NamesTable (a : Attribute) : Prop := a.path = "table" → a.OnlyNames

/-- So has a column attribute, unless it stands without parentheses. -/
def NamesColumn (a : Attribute) : Prop := a.path = "column" → a = .bare "column" ∨ a.OnlyNames

/-- The name that an item gives. -/
def itemName? : String × AttributeValue → Option String
  | (key, .string s) => if key = "name" then some s else none
  | _ => none

/-- The names that an attribute gives, if it has this path. -/
def titles (path : String) (a : Attribute) : List String :=
  match a with
  | .list p items => if p = path then items.filterMap itemName? else []
  | _ => []

/-! ## One attribute -/

theorem nameOf_eq_ok_iff {path : String} {found r : Option String}
    {items : List (String × AttributeValue)} :
    nameOf path found items = .ok r ↔
      (∀ item ∈ items, ∃ s, item = ("name", .string s)) ∧
        r = (items.filterMap itemName?).getLast?.or found := by
  induction items generalizing found with
  | nil => simp [nameOf, eq_comm]
  | cons item items ih =>
    obtain ⟨key, value⟩ := item
    by_cases hkey : key = "name"
    · subst hkey
      cases value with
      | string s =>
        have hnames : (("name", .string s) :: items).filterMap itemName? =
            s :: items.filterMap itemName? := rfl
        have hlast (ns : List String) : (s :: ns).getLast?.or found = ns.getLast?.or (some s) := by
          rw [List.getLast?_cons]
          cases ns.getLast? <;> rfl
        rw [show nameOf path found (("name", .string s) :: items) = nameOf path (some s) items from
          rfl, ih, List.forall_mem_cons, hnames, hlast]
        simp
      | none => simp [nameOf]
      | other => simp [nameOf]
    · simp [nameOf, hkey]

theorem name?_eq_ok_iff {a : Attribute} {r : Option String} :
    a.name? = .ok r ↔ a.OnlyNames ∧ r = (a.titles a.path).getLast? := by
  cases a with
  | list path items => simp [name?, OnlyNames, titles, Attribute.path, nameOf_eq_ok_iff]
  | _ => simp [name?, OnlyNames]

theorem onlyNames_iff {a : Attribute} : a.OnlyNames ↔ ∃ r, a.name? = .ok r := by
  simp [name?_eq_ok_iff]

theorem titles_of_path_ne {a : Attribute} {path : String} (h : a.path ≠ path) :
    a.titles path = [] := by
  cases a with
  | list p items => exact if_neg h
  | _ => rfl

/-! ## The table -/

/-- The table attributes are in order up to the first one that gives a name. -/
def NamesTableFirst (as : List Attribute) : Prop :=
  ∀ before a after, as = before ++ a :: after → (∀ b ∈ before, b.titles "table" = []) → a.NamesTable

theorem namesTableFirst_nil : NamesTableFirst [] := fun before a after h => by simp at h

theorem namesTableFirst_cons {a : Attribute} {as : List Attribute} :
    NamesTableFirst (a :: as) ↔ a.NamesTable ∧ (a.titles "table" = [] → NamesTableFirst as) := by
  constructor
  · refine fun h => ⟨h [] a as rfl (by simp), fun hnone before b after has hbefore => ?_⟩
    refine h (a :: before) b after (by rw [has, List.cons_append]) ?_
    exact List.forall_mem_cons.2 ⟨hnone, hbefore⟩
  · rintro ⟨ha, has⟩ before b after heq hbefore
    cases before with
    | nil =>
      obtain ⟨rfl, rfl⟩ := List.cons.inj heq
      exact ha
    | cons c before =>
      obtain ⟨rfl, htail⟩ := List.cons.inj heq
      obtain ⟨hnone, hbefore⟩ := List.forall_mem_cons.1 hbefore
      exact has hnone before b after htail hbefore

end Attribute

open Attribute

namespace Declaration

theorem tableNameOf_eq_ok_iff {as : List Attribute} {r : Option String} :
    tableNameOf as = .ok r ↔
      NamesTableFirst as ∧ r = as.findSome? fun a => (a.titles "table").getLast? := by
  induction as generalizing r with
  | nil =>
    rw [tableNameOf, Except.ok.injEq, List.findSome?_nil, eq_comm]
    exact (and_iff_right namesTableFirst_nil).symm
  | cons a as ih =>
    rw [namesTableFirst_cons, List.findSome?_cons, tableNameOf]
    by_cases hpath : a.path = "table"
    · cases hname : a.name? with
      | error e => simp [hpath, NamesTable, onlyNames_iff, hname]
      | ok found =>
        obtain ⟨honly, hfound⟩ := name?_eq_ok_iff.1 hname
        rw [hpath] at hfound
        have hnames : a.NamesTable := fun _ => honly
        rw [← hfound]
        -- A name ends the search and so takes the rest of the attributes out of the condition.
        cases found with
        | some name =>
          have hsome : a.titles "table" ≠ [] := by
            intro h
            simp [h] at hfound
          simp [hpath, hnames, hsome, eq_comm]
        | none =>
          have hnone : a.titles "table" = [] := List.getLast?_eq_none_iff.1 hfound.symm
          simp [hpath, hnames, hnone, ih]
    · have hnames : a.NamesTable := fun h => absurd h hpath
      simp [hpath, titles_of_path_ne hpath, hnames, ih]

/-! ## The columns -/

theorem columnNameOf_eq_ok_iff {as : List Attribute} {found r : Option String} :
    columnNameOf found as = .ok r ↔
      (∀ a ∈ as, a.NamesColumn) ∧ r = (as.flatMap (titles "column")).getLast?.or found := by
  induction as generalizing found with
  | nil => simp [columnNameOf, eq_comm]
  | cons a as ih =>
    -- A title of a later attribute replaces the one that is found so far.
    have hlast (titles rest : List String) :
        (titles ++ rest).getLast?.or found = rest.getLast?.or (titles.getLast?.or found) := by
      rw [List.getLast?_append, Option.or_assoc]
    rw [List.forall_mem_cons, List.flatMap_cons, hlast]
    by_cases hpath : a.path = "column"
    · by_cases hbare : a = .bare "column"
      · subst hbare
        simp [columnNameOf, Attribute.path, NamesColumn, titles, ih]
      · have hstep : columnNameOf found (a :: as) = .ok r ↔
            ∃ name, a.name? = .ok name ∧ columnNameOf (name.or found) as = .ok r := by
          cases a with
          | bare path => exact absurd (congrArg Attribute.bare hpath) hbare
          | assigned path => simp [columnNameOf, hpath, name?]
          | list path items =>
            cases hname : (list path items).name? <;> simp [columnNameOf, hpath, hname]
        have hnames : a.NamesColumn ↔ a.OnlyNames := by simp [NamesColumn, hpath, hbare]
        simp only [hstep, hnames, name?_eq_ok_iff, hpath, ih, and_assoc, exists_and_left,
          exists_eq_left]
    · have hnames : a.NamesColumn := fun h => absurd h hpath
      simp [columnNameOf, hpath, hnames, titles_of_path_ne hpath, ih]

end Declaration

/-- The name of a field's column: the last one that its attributes give, or else its own. -/
def FieldDeclaration.column (f : FieldDeclaration) : String :=
  (f.attributes.flatMap (titles "column")).getLast?.getD f.name

namespace Declaration

theorem columnName_eq_ok_iff {f : FieldDeclaration} {c : String} :
    columnName f = .ok c ↔ (∀ a ∈ f.attributes, a.NamesColumn) ∧ c = f.column := by
  have hstep : columnName f = .ok c ↔
      ∃ name, columnNameOf none f.attributes = .ok name ∧ c = name.getD f.name := by
    rw [columnName]
    cases columnNameOf none f.attributes <;> simp [eq_comm]
  simp [hstep, columnNameOf_eq_ok_iff, and_assoc, FieldDeclaration.column]

theorem columnNames_eq_ok_iff {fs : List FieldDeclaration} {cs : List String} :
    columnNames fs = .ok cs ↔
      (∀ f ∈ fs, ∀ a ∈ f.attributes, a.NamesColumn) ∧ cs = fs.map FieldDeclaration.column := by
  induction fs generalizing cs with
  | nil => simp [columnNames, eq_comm]
  | cons f fs ih =>
    have hstep : columnNames (f :: fs) = .ok cs ↔
        ∃ c, columnName f = .ok c ∧ ∃ rest, columnNames fs = .ok rest ∧ cs = c :: rest := by
      rw [columnNames]
      cases columnName f <;> cases columnNames fs <;> simp [eq_comm]
    simp [hstep, columnName_eq_ok_iff, ih, and_assoc]

/-! ## All of it -/

/-- A structure with named fields whose table and column attributes hold nothing but names. -/
structure WellFormed (d : Declaration) : Prop where
  kind : d.kind = .namedFields
  table : ∀ a ∈ d.attributes, a.NamesTable
  columns : ∀ f ∈ d.fields, ∀ a ∈ f.attributes, a.NamesColumn

/-- A declaration in which all that is looked at is in order. -/
structure Readable (d : Declaration) : Prop where
  kind : d.kind = .namedFields
  table : NamesTableFirst d.attributes
  columns : ∀ f ∈ d.fields, ∀ a ∈ f.attributes, a.NamesColumn

theorem WellFormed.readable {d : Declaration} (h : d.WellFormed) : d.Readable where
  kind := h.kind
  table _ a _ heq _ := h.table a (by simp [heq])
  columns := h.columns

/-- The name of the table: the last one in the first attribute that gives any, or else the name of
the type in snake case. -/
def table (d : Declaration) : String :=
  (d.attributes.findSome? fun a => (a.titles "table").getLast?).getD
    (.ofList (Text.snakeCase d.name.toList))

theorem tableName_eq_ok_iff {d : Declaration} {t : String} :
    d.tableName = .ok t ↔ NamesTableFirst d.attributes ∧ t = d.table := by
  have hstep : d.tableName = .ok t ↔ ∃ name, tableNameOf d.attributes = .ok name ∧
      t = name.getD (.ofList (Text.snakeCase d.name.toList)) := by
    rw [tableName]
    cases tableNameOf d.attributes with
    | error e => simp
    | ok name => cases name <;> simp [eq_comm]
  simp only [hstep, tableNameOf_eq_ok_iff, and_assoc, exists_and_left, exists_eq_left, table]

theorem names_eq_ok_iff {d : Declaration} {t : String} {cs : List String} :
    d.names = .ok (t, cs) ↔
      d.Readable ∧ t = d.table ∧ cs = d.fields.map FieldDeclaration.column := by
  have hkind : checkKind d.kind = .ok () ↔ d.kind = .namedFields := by
    cases d.kind <;> simp [checkKind]
  have hstep : d.names = .ok (t, cs) ↔
      d.tableName = .ok t ∧ checkKind d.kind = .ok () ∧ columnNames d.fields = .ok cs := by
    rw [names]
    cases d.tableName <;> cases checkKind d.kind <;> cases columnNames d.fields <;>
      simp [bind, Except.bind, pure, Except.pure]
  rw [hstep, tableName_eq_ok_iff, hkind, columnNames_eq_ok_iff]
  constructor
  · rintro ⟨⟨htable, ht⟩, hkind, hcolumns, hcs⟩
    exact ⟨⟨hkind, htable, hcolumns⟩, ht, hcs⟩
  · rintro ⟨⟨hkind, htable, hcolumns⟩, ht, hcs⟩
    exact ⟨⟨htable, ht⟩, hkind, hcolumns, hcs⟩

/-- A declaration is a model just if all that is looked at is in order; then the table has its name
from the first table attribute that gives one, and there is one column for each field, in the order
of the fields. All that it may lack to be well formed is in the table attributes behind that one,
which are not looked at. -/
theorem model_iff_readable (d : Declaration) :
    (∀ (t : String) (cs : List String), d.names = .ok (t, cs) ↔
      d.Readable ∧ t = d.table ∧ cs = d.fields.map FieldDeclaration.column) ∧
    (d.WellFormed ↔ (∃ r, d.names = .ok r) ∧ ∀ a ∈ d.attributes, a.NamesTable) := by
  refine ⟨fun t cs => names_eq_ok_iff, fun h => ⟨?_, h.table⟩, ?_⟩
  · exact ⟨_, names_eq_ok_iff.2 ⟨h.readable, rfl, rfl⟩⟩
  · rintro ⟨⟨⟨t, cs⟩, hmodel⟩, htable⟩
    obtain ⟨h, -⟩ := names_eq_ok_iff.1 hmodel
    exact ⟨h.kind, htable, h.columns⟩

/-- A table attribute that holds no name at all is accepted after one that does. -/
theorem late_table_attribute_unread :
    let d : Declaration :=
      { kind := .namedFields
        name := "Planet"
        attributes := [.list "table" [("name", .string "planets")],
          .list "table" [("rename", .string "worlds")]]
        fields := [⟨"id", []⟩] }
    d.names = .ok ("planets", ["id"]) ∧ ¬ d.WellFormed := by
  intro d
  refine ⟨rfl, fun h => ?_⟩
  obtain ⟨s, hs⟩ := h.table (.list "table" [("rename", .string "worlds")]) (by simp [d]) rfl
    ("rename", .string "worlds") (by simp)
  simp at hs

end Declaration

end PolySql
