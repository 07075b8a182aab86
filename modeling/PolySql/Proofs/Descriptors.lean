import Mathlib.Data.List.Nodup
import PolySql.Dialect.Descriptor
import PolySql.Proofs.JsonRoundtrip

/-!
# What a descriptor says

A dialect is what the fourteen properties of its descriptor say and nothing else. `Dialect.members`
lists them with what each may hold, apart from how a document is read.

* `Dialect.MemberKind.Reads` : which values stand for which property;
* `Dialect.Member.Stands`, `Dialect.Member.Gives` : what the members of a document have to do with a
  property;
* `Dialect.ofMembers?_eq_some_iff` : a dialect is read exactly where its properties are given;
* `Dialect.loads_as_written` : a written dialect is read back, from both forms;
* `Dialect.loads_by_known_members` : what of a document counts.
-/

namespace PolySql

namespace Json

/-- The object with these members. -/
def objectOf (ms : List (String × Json)) : Json := .object (ms.map fun m => (some m.1, m.2))

theorem read?_objectOf {ms : List (String × Json)} (h : ∀ m ∈ ms, m.2.Proper) :
    read? (objectOf ms).write = some (objectOf ms) := by
  refine read?_write (.object fun m hm => ?_)
  obtain ⟨n, hn, rfl⟩ := List.mem_map.1 hm
  exact h n hn

/-! ## Looking up members -/

section Lookup
variable {ms : List (String × Json)} {name : String} {v : Json}

theorem count_name (ms : List (String × Json)) (name : String) :
    (ms.map Prod.fst).count name = (ms.filter fun m => m.1 == name).length := by
  rw [List.count, List.countP_map, List.countP_eq_length_filter]
  rfl

/-- A name that occurs once has the member that is there under it. -/
theorem filter_name_eq_iff : (ms.filter fun m => m.1 == name) = [(name, v)] ↔
    (name, v) ∈ ms ∧ (ms.map Prod.fst).count name = 1 := by
  rw [count_name]
  constructor
  · intro h
    have hmem : (name, v) ∈ ms.filter fun m => m.1 == name := by simp [h]
    exact ⟨(List.mem_filter.1 hmem).1, by rw [h, List.length_singleton]⟩
  · rintro ⟨hmem, hlength⟩
    obtain ⟨m, hm⟩ := List.length_eq_one_iff.1 hlength
    have hmem' : (name, v) ∈ ms.filter fun m => m.1 == name := List.mem_filter.2 ⟨hmem, by simp⟩
    rw [hm, List.mem_singleton] at hmem'
    rw [hm, hmem']

theorem filter_name_eq_nil_iff :
    (ms.filter fun m => m.1 == name) = [] ↔ name ∉ ms.map Prod.fst := by
  rw [← List.length_eq_zero_iff, ← count_name, List.count_eq_zero]

theorem member?_eq_some_iff : member? ms name = some (some v) ↔
    (name, v) ∈ ms ∧ (ms.map Prod.fst).count name = 1 := by
  rw [← filter_name_eq_iff, member?]
  split
  · simp [*]
  · rename_i m hm
    have hname : m.1 = name := by
      have hmem : m ∈ ms.filter fun m => m.1 == name := by simp [hm]
      simpa using (List.mem_filter.1 hmem).2
    obtain ⟨_, w⟩ := m
    cases hname
    simp [hm]
  · rename_i hnil hone
    exact iff_of_false (by simp) fun h => hone _ h

theorem member?_eq_none_iff : member? ms name = some none ↔ name ∉ ms.map Prod.fst := by
  rw [← filter_name_eq_nil_iff, member?]
  split
  · simp only [*]
  · simp [*]
  · rename_i hnil _
    exact iff_of_false (by simp) hnil

end Lookup

end Json

namespace Dialect

/-! ## The properties -/

/-- What a member of a descriptor may hold. -/
inductive MemberKind where
  | text
  | character
  | truth
  /-- One of the alternatives of these names. -/
  | choice (keys : List String)

/-- The value `v` stands for the property that is written `w`. -/
def MemberKind.Reads (v w : Json) : MemberKind → Prop
  | .text => ∃ s, v = .text s ∧ w = .text s
  | .character => ∃ c, v = .text (.singleton c) ∧ w = .text (.singleton c)
  | .truth => ∃ b, v = .bool b ∧ w = .bool b
  | .choice keys => ∃ key ∈ keys, (v = .text key ∨ v = .object [(some key, .null)]) ∧ w = .text key

/-- A property by its name. One that may be left out is false then. -/
structure Member where
  name : String
  kind : MemberKind
  optional : Bool

/-- The properties of a dialect in order. -/
def members : List Member :=
  [⟨"name", .text, false⟩,
   ⟨"quote_open", .character, false⟩,
   ⟨"quote_close", .character, false⟩,
   ⟨"placeholder", .choice ["question", "dollar"], false⟩,
   ⟨"supports_if_exists", .truth, false⟩,
   ⟨"supports_returning", .truth, false⟩,
   ⟨"supports_auto_increment", .truth, false⟩,
   ⟨"auto_increment_keyword", .text, false⟩,
   ⟨"supports_drop_behavior", .truth, false⟩,
   ⟨"supports_multiple_alter_actions", .truth, false⟩,
   ⟨"upsert_syntax", .choice ["standard", "my_sql", "unsupported"], false⟩,
   ⟨"conflict_target_required", .truth, true⟩,
   ⟨"boolean_literals", .choice ["keywords", "numeric"], false⟩,
   ⟨"escape_backslash", .truth, true⟩]

/-- A member of a document that names a property. -/
def Known (m : String × Json) : Prop := m.1 ∈ members.map Member.name

instance (m : String × Json) : Decidable (Known m) := inferInstanceAs (Decidable (_ ∈ _))

/-- The members of a document have the property once, or not at all if it may be left out, and with
a value of its kind. -/
structure Member.Stands (m : Member) (ms : List (String × Json)) : Prop where
  once : (ms.map Prod.fst).count m.name ≤ 1
  there : m.optional = false → m.name ∈ ms.map Prod.fst
  kind : ∀ v, (m.name, v) ∈ ms → ∃ w, m.kind.Reads v w

/-- The members of a document give the property as it is written `w`. -/
def Member.Gives (m : Member) (ms : List (String × Json)) (w : Json) : Prop :=
  (∃ v, (m.name, v) ∈ ms ∧ (ms.map Prod.fst).count m.name = 1 ∧ m.kind.Reads v w) ∨
    m.optional = true ∧ m.name ∉ ms.map Prod.fst ∧ w = .bool false

namespace Member
variable {m : Member} {ms ms' : List (String × Json)} {v w : Json}

theorem stands_iff_gives : m.Stands ms ↔ ∃ w, m.Gives ms w := by
  constructor
  · intro h
    by_cases hmem : m.name ∈ ms.map Prod.fst
    · obtain ⟨⟨name, v⟩, hv, hname⟩ := List.mem_map.1 hmem
      cases hname
      obtain ⟨w, hw⟩ := h.kind v hv
      have hcount := List.count_pos_iff.2 hmem
      exact ⟨w, .inl ⟨v, hv, Nat.le_antisymm h.once hcount, hw⟩⟩
    · refine ⟨.bool false, .inr ⟨?_, hmem, rfl⟩⟩
      cases ho : m.optional with
      | true => rfl
      | false => exact absurd (h.there ho) hmem
  · rintro ⟨w, ⟨v, hv, hcount, hw⟩ | ⟨ho, hnot, -⟩⟩
    · refine ⟨Nat.le_of_eq hcount, fun _ => List.mem_map.2 ⟨_, hv, rfl⟩, fun v' hv' => ?_⟩
      have hv'' := (Json.filter_name_eq_iff.2 ⟨hv, hcount⟩).symm.trans
        (Json.filter_name_eq_iff.2 ⟨hv', hcount⟩)
      cases hv''
      exact ⟨w, hw⟩
    · refine ⟨by simp [List.count_eq_zero.2 hnot], fun h => ?_, fun v hv => ?_⟩
      · simp [h] at ho
      · exact absurd (List.mem_map.2 ⟨_, hv, rfl⟩) hnot

/-- A property stands in a document if it is given as something that `write` writes, where it
writes all that the values of the kind stand for. -/
theorem stands_iff_exists {α : Type} {write : α → Json}
    (honto : ∀ v w, m.kind.Reads v w → ∃ a, w = write a)
    (hfalse : m.optional = true → ∃ a, .bool false = write a) :
    m.Stands ms ↔ ∃ a, m.Gives ms (write a) := by
  rw [stands_iff_gives]
  constructor
  · rintro ⟨w, hw⟩
    obtain ⟨v, -, -, hv⟩ | ⟨ho, -, rfl⟩ := id hw
    · obtain ⟨a, rfl⟩ := honto v w hv
      exact ⟨a, hw⟩
    · obtain ⟨a, ha⟩ := hfalse ho
      exact ⟨a, ha ▸ hw⟩
  · rintro ⟨a, ha⟩
    exact ⟨_, ha⟩

/-- Only the members of the name count. -/
theorem gives_congr
    (h : (ms.filter fun p => p.1 == m.name).Perm (ms'.filter fun p => p.1 == m.name)) :
    m.Gives ms w ↔ m.Gives ms' w := by
  have hcount : (ms.map Prod.fst).count m.name = (ms'.map Prod.fst).count m.name := by
    rw [Json.count_name, Json.count_name, h.length_eq]
  have hmem (v : Json) : (m.name, v) ∈ ms ↔ (m.name, v) ∈ ms' := by
    simpa using h.mem_iff (a := (m.name, v))
  simp only [Gives, hmem, hcount, ← List.count_eq_zero]

/-- One that is left out gives what it gives as false. -/
theorem gives_cons_false (hm : m.optional = true) (hkind : m.kind = .truth)
    (hnot : m.name ∉ ms.map Prod.fst) :
    m.Gives ((m.name, .bool false) :: ms) w ↔ m.Gives ms w := by
  have hleft (v : Json) : (m.name, v) ∉ ms := fun hv => hnot (List.mem_map.2 ⟨_, hv, rfl⟩)
  simp [Gives, MemberKind.Reads, hm, hkind, hleft, hnot, List.count_eq_zero.2 hnot]

end Member

/-! ## Reading the properties -/

/-- The function reads the values of a kind, as the property that `write` writes. -/
structure MemberKind.ReadBy {α : Type} (kind : MemberKind) (as? : Json → Option α)
    (write : α → Json) : Prop where
  reads : ∀ v a, as? v = some a ↔ kind.Reads v (write a)
  onto : ∀ v w, kind.Reads v w → ∃ a, w = write a

theorem readBy_text : MemberKind.text.ReadBy Json.asString? .text where
  reads v a := by
    cases v <;> simp [Json.asString?, MemberKind.Reads, Json.text]
  onto v w := by
    rintro ⟨s, -, rfl⟩
    exact ⟨s, rfl⟩

theorem readBy_character :
    MemberKind.character.ReadBy Json.asChar? fun c => .text (.singleton c) where
  reads v a := by
    constructor
    · intro h
      unfold Json.asChar? at h
      split at h
      · split at h
        · cases h
          refine ⟨a, congrArg Json.text (String.toList_inj.1 ?_), rfl⟩
          simp [*]
        · cases h
      · cases h
    · rintro ⟨c, rfl, hc⟩
      have hlist : [a] = [c] := by simpa using hc
      cases hlist
      simp [Json.asChar?]
  onto v w := by
    rintro ⟨c, -, rfl⟩
    exact ⟨c, rfl⟩

theorem readBy_truth : MemberKind.truth.ReadBy Json.asBool? .bool where
  reads v a := by
    cases v <;> simp [Json.asBool?, MemberKind.Reads, eq_comm]
  onto v w := by
    rintro ⟨b, -, rfl⟩
    exact ⟨b, rfl⟩

/-- Alternatives are read by their names if no two share one. -/
theorem readBy_choice {α : Type} (key : α → String) (choices : List α)
    (hkey : ∀ a b, key a = key b → a = b) (hall : ∀ a, a ∈ choices) :
    (MemberKind.choice (choices.map key)).ReadBy (Json.asChoice? key choices)
      fun a => .text (key a) where
  reads v a := by
    have hfind (s : String) : choices.find? (fun b => key b == s) = some a ↔ s = key a := by
      constructor
      · intro h
        have hbeq := List.find?_some h
        exact (eq_of_beq hbeq).symm
      · rintro rfl
        have hsome : (choices.find? fun b => key b == key a).isSome :=
          List.find?_isSome.2 ⟨a, hall a, beq_self_eq_true (key a)⟩
        obtain ⟨b, hb⟩ := Option.isSome_iff_exists.1 hsome
        have hbeq := List.find?_some hb
        rw [hb, hkey _ _ (eq_of_beq hbeq)]
    have hmem : key a ∈ choices.map key := List.mem_map_of_mem (hall a)
    constructor
    · intro h
      unfold Json.asChoice? at h
      split at h
      · exact ⟨key a, hmem, .inl (congrArg Json.text ((hfind _).1 h)), rfl⟩
      · exact ⟨key a, hmem, .inr (by rw [(hfind _).1 h]), rfl⟩
      · cases h
    · rintro ⟨k, -, rfl | rfl, hk⟩
      · exact (hfind k).2 (by simpa [eq_comm] using hk)
      · exact (hfind k).2 (by simpa [eq_comm] using hk)
  onto v w := by
    rintro ⟨k, hk, -, rfl⟩
    obtain ⟨a, -, rfl⟩ := List.mem_map.1 hk
    exact ⟨a, rfl⟩

theorem readBy_placeholder : (MemberKind.choice ["question", "dollar"]).ReadBy
    (Json.asChoice? PlaceholderStyle.key [.question, .dollar]) fun a => .text a.key :=
  readBy_choice PlaceholderStyle.key [.question, .dollar]
    (fun a b => by cases a <;> cases b <;> decide) (fun a => by cases a <;> decide)

theorem readBy_upsert : (MemberKind.choice ["standard", "my_sql", "unsupported"]).ReadBy
    (Json.asChoice? UpsertSyntax.key [.standard, .mySql, .unsupported]) fun a => .text a.key :=
  readBy_choice UpsertSyntax.key [.standard, .mySql, .unsupported]
    (fun a b => by cases a <;> cases b <;> decide) (fun a => by cases a <;> decide)

theorem readBy_literals : (MemberKind.choice ["keywords", "numeric"]).ReadBy
    (Json.asChoice? BooleanLiterals.key [.keywords, .numeric]) fun a => .text a.key :=
  readBy_choice BooleanLiterals.key [.keywords, .numeric]
    (fun a b => by cases a <;> cases b <;> decide) (fun a => by cases a <;> decide)

namespace MemberKind.ReadBy
variable {α : Type} {kind : MemberKind} {as? : Json → Option α} {write : α → Json}

theorem required?_eq_some_iff (h : kind.ReadBy as? write) (ms : List (String × Json))
    (name : String) (a : α) :
    Json.required? ms name as? = some a ↔ Member.Gives ⟨name, kind, false⟩ ms (write a) := by
  have hmember : Json.required? ms name as? = some a ↔
      ∃ v, Json.member? ms name = some (some v) ∧ as? v = some a := by
    unfold Json.required?
    rcases Json.member? ms name with _ | _ | v <;> simp
  rw [hmember]
  simp [Json.member?_eq_some_iff, h.reads, Member.Gives, and_assoc]

theorem exists_required?_iff (h : kind.ReadBy as? write) (ms : List (String × Json))
    (name : String) :
    (∃ a, Json.required? ms name as? = some a) ↔ Member.Stands ⟨name, kind, false⟩ ms := by
  simp only [h.required?_eq_some_iff]
  exact (Member.stands_iff_exists h.onto (by simp)).symm

end MemberKind.ReadBy

theorem flag?_eq_some_iff (ms : List (String × Json)) (name : String) (b : Bool) :
    Json.flag? ms name = some b ↔ Member.Gives ⟨name, .truth, true⟩ ms (.bool b) := by
  have hmember : Json.flag? ms name = some b ↔
      (∃ v, Json.member? ms name = some (some v) ∧ v.asBool? = some b) ∨
        Json.member? ms name = some none ∧ b = false := by
    unfold Json.flag?
    rcases Json.member? ms name with _ | _ | v
    · simp
    · simp [eq_comm]
    · simp
  rw [hmember]
  simp [Json.member?_eq_some_iff, Json.member?_eq_none_iff, readBy_truth.reads, Member.Gives,
    and_assoc]

theorem exists_flag?_iff (ms : List (String × Json)) (name : String) :
    (∃ b, Json.flag? ms name = some b) ↔ Member.Stands ⟨name, .truth, true⟩ ms := by
  simp only [flag?_eq_some_iff]
  exact (Member.stands_iff_exists readBy_truth.onto fun _ => ⟨false, rfl⟩).symm

/-! ## Reading a dialect -/

theorem nodup_names : (members.map Member.name).Nodup := by simp [members]

theorem kind_of_optional {m : Member} (hm : m ∈ members) (ho : m.optional = true) :
    m.kind = .truth := by
  have hall : ∀ m ∈ members, m.optional = true → m.kind = .truth := by simp [members]
  exact hall m hm ho

section Members
variable {ms ms' : List (String × Json)}

/-- A dialect is read exactly where each of its properties is given. -/
theorem ofMembers?_eq_some_iff (ms : List (String × Json)) (d : Dialect) :
    ofMembers? ms = some d ↔ ∀ p ∈ members.zip d.memberValues, p.1.Gives ms p.2 := by
  simp only [members, memberValues, List.zip_cons_cons, List.zip_nil_left, List.forall_mem_cons,
    ← flag?_eq_some_iff, ← readBy_text.required?_eq_some_iff,
    ← readBy_character.required?_eq_some_iff, ← readBy_truth.required?_eq_some_iff,
    ← readBy_placeholder.required?_eq_some_iff, ← readBy_upsert.required?_eq_some_iff,
    ← readBy_literals.required?_eq_some_iff]
  constructor
  · intro h
    obtain ⟨_, hname, h⟩ := Option.bind_eq_some_iff.1 h
    obtain ⟨_, hopen, h⟩ := Option.bind_eq_some_iff.1 h
    obtain ⟨_, hclose, h⟩ := Option.bind_eq_some_iff.1 h
    obtain ⟨_, hplaceholder, h⟩ := Option.bind_eq_some_iff.1 h
    obtain ⟨_, hifExists, h⟩ := Option.bind_eq_some_iff.1 h
    obtain ⟨_, hreturning, h⟩ := Option.bind_eq_some_iff.1 h
    obtain ⟨_, hincrement, h⟩ := Option.bind_eq_some_iff.1 h
    obtain ⟨_, hkeyword, h⟩ := Option.bind_eq_some_iff.1 h
    obtain ⟨_, hbehavior, h⟩ := Option.bind_eq_some_iff.1 h
    obtain ⟨_, hactions, h⟩ := Option.bind_eq_some_iff.1 h
    obtain ⟨_, hupsert, h⟩ := Option.bind_eq_some_iff.1 h
    obtain ⟨_, htarget, h⟩ := Option.bind_eq_some_iff.1 h
    obtain ⟨_, hliterals, h⟩ := Option.bind_eq_some_iff.1 h
    obtain ⟨_, hescape, h⟩ := Option.bind_eq_some_iff.1 h
    cases h
    exact ⟨hname, hopen, hclose, hplaceholder, hifExists, hreturning, hincrement, hkeyword,
      hbehavior, hactions, hupsert, htarget, hliterals, hescape, by simp⟩
  · rintro ⟨hname, hopen, hclose, hplaceholder, hifExists, hreturning, hincrement, hkeyword,
      hbehavior, hactions, hupsert, htarget, hliterals, hescape, -⟩
    simp only [ofMembers?, hname, hopen, hclose, hplaceholder, hifExists, hreturning, hincrement,
      hkeyword, hbehavior, hactions, hupsert, htarget, hliterals, hescape]
    rfl

/-- A dialect is read if the properties stand in the document. -/
theorem exists_ofMembers?_iff :
    (∃ d, ofMembers? ms = some d) ↔ ∀ m ∈ members, m.Stands ms := by
  constructor
  · rintro ⟨d, hd⟩ m hm
    have hzip : members = (members.zip d.memberValues).map Prod.fst := rfl
    rw [hzip] at hm
    obtain ⟨p, hp, rfl⟩ := List.mem_map.1 hm
    exact Member.stands_iff_gives.2 ⟨p.2, (ofMembers?_eq_some_iff ms d).1 hd p hp⟩
  · intro h
    simp only [members, List.forall_mem_cons, ← exists_flag?_iff,
      ← readBy_text.exists_required?_iff, ← readBy_character.exists_required?_iff,
      ← readBy_truth.exists_required?_iff, ← readBy_placeholder.exists_required?_iff,
      ← readBy_upsert.exists_required?_iff, ← readBy_literals.exists_required?_iff] at h
    obtain ⟨⟨_, hname⟩, ⟨_, hopen⟩, ⟨_, hclose⟩, ⟨_, hplaceholder⟩, ⟨_, hifExists⟩,
      ⟨_, hreturning⟩, ⟨_, hincrement⟩, ⟨_, hkeyword⟩, ⟨_, hbehavior⟩, ⟨_, hactions⟩,
      ⟨_, hupsert⟩, ⟨_, htarget⟩, ⟨_, hliterals⟩, ⟨_, hescape⟩, -⟩ := h
    simp only [ofMembers?, hname, hopen, hclose, hplaceholder, hifExists, hreturning, hincrement,
      hkeyword, hbehavior, hactions, hupsert, htarget, hliterals, hescape]
    exact ⟨_, rfl⟩

/-- What the members give of each property is all that counts. -/
theorem ofMembers?_congr (h : ∀ m ∈ members, ∀ w, m.Gives ms w ↔ m.Gives ms' w) :
    ofMembers? ms = ofMembers? ms' := by
  ext d
  rw [ofMembers?_eq_some_iff, ofMembers?_eq_some_iff]
  exact forall₂_congr fun p hp => h _ (List.of_mem_zip hp).1 _

theorem ofMembers?_eq_of_perm (h : (ms.filter (Known ·)).Perm (ms'.filter (Known ·))) :
    ofMembers? ms = ofMembers? ms' := by
  have hfilter (m : Member) (hm : m ∈ members) (ms : List (String × Json)) :
      (ms.filter fun p => p.1 == m.name) =
        (ms.filter (Known ·)).filter fun p => p.1 == m.name := by
    rw [List.filter_filter]
    refine List.filter_congr fun p hp => ?_
    by_cases hname : p.1 = m.name
    · simp [Known, hname, List.mem_map_of_mem hm]
    · simp [hname]
  refine ofMembers?_congr fun m hm w => Member.gives_congr ?_
  rw [hfilter m hm ms, hfilter m hm ms']
  exact h.filter _

theorem ofMembers?_cons_false {m : Member} (hm : m ∈ members) (ho : m.optional = true)
    (hnot : m.name ∉ ms.map Prod.fst) :
    ofMembers? ((m.name, .bool false) :: ms) = ofMembers? ms := by
  refine ofMembers?_congr fun n hn w => ?_
  by_cases hname : n.name = m.name
  -- Only the properties that may be left out read a missing member, and all of them are flags.
  · cases List.inj_on_of_nodup_map nodup_names hn hm hname
    exact Member.gives_cons_false ho (kind_of_optional hm ho) hnot
  · refine Member.gives_congr (List.Perm.of_eq (List.filter_cons_of_neg ?_))
    simpa using Ne.symm hname

theorem named?_objectOf (ms : List (String × Json)) :
    named? (ms.map fun m => (some m.1, m.2)) = some ms := by
  induction ms with
  | nil => rfl
  | cons m ms ih =>
    simp only [named?] at ih
    simp [named?, ih]

/-- A text that is read as an object has the dialect of its members. -/
theorem load?_of_read? {text : List Char} (h : Json.read? text = some (.objectOf ms)) :
    load? text = ofMembers? ms := by
  rw [load?, h]
  exact congrArg (Option.bind · ofMembers?) (named?_objectOf ms)

end Members

/-! ## Written dialects -/

theorem memberNames_eq : memberNames = members.map Member.name := rfl

theorem toJson_eq (d : Dialect) : d.toJson = .objectOf (memberNames.zip d.memberValues) := rfl

theorem proper_memberValues (d : Dialect) : ∀ v ∈ d.memberValues, v.Proper := by
  simp [memberValues, Json.text, Json.Proper.string, Json.Proper.bool]

/-- Each property is written as it is read. -/
theorem reads_memberValues (d : Dialect) :
    ∀ p ∈ members.zip d.memberValues, p.1.kind.Reads p.2 p.2 := by
  have hplaceholder : d.placeholderStyle.key = "question" ∨ d.placeholderStyle.key = "dollar" := by
    cases d.placeholderStyle <;> simp [PlaceholderStyle.key]
  have hupsert : d.upsertSyntax.key = "standard" ∨ d.upsertSyntax.key = "my_sql" ∨
      d.upsertSyntax.key = "unsupported" := by
    cases d.upsertSyntax <;> simp [UpsertSyntax.key]
  have hliterals : d.booleanLiterals.key = "keywords" ∨ d.booleanLiterals.key = "numeric" := by
    cases d.booleanLiterals <;> simp [BooleanLiterals.key]
  simp [members, memberValues, MemberKind.Reads, hplaceholder, hupsert, hliterals]

theorem ofMembers?_memberValues (d : Dialect) :
    ofMembers? (memberNames.zip d.memberValues) = some d := by
  rw [ofMembers?_eq_some_iff]
  rintro ⟨m, w⟩ hp
  have hmem : (m.name, w) ∈ memberNames.zip d.memberValues := by
    rw [memberNames_eq, List.zip_map_left]
    exact List.mem_map_of_mem hp
  have hnames : (memberNames.zip d.memberValues).map Prod.fst = members.map Member.name := rfl
  have hcount := List.count_eq_one_of_mem nodup_names (List.mem_map_of_mem (List.of_mem_zip hp).1)
  exact .inl ⟨w, hmem, by rw [hnames, hcount], d.reads_memberValues _ hp⟩

/-- A dialect is read back as it was written, from the object and from the array. -/
theorem loads_as_written (d : Dialect) :
    load? d.toJson.write = some d ∧ load? d.toJsonArray.write = some d := by
  constructor
  · have hproper : ∀ m ∈ memberNames.zip d.memberValues, m.2.Proper :=
      fun m hm => d.proper_memberValues _ (List.of_mem_zip hm).2
    rw [toJson_eq, load?_of_read? (Json.read?_objectOf hproper), ofMembers?_memberValues]
  · have hproper : d.toJsonArray.Proper := .array d.proper_memberValues
    rw [load?, Json.read?_write hproper]
    exact d.ofMembers?_memberValues

/-! ## What counts -/

/-- An object loads if it has each property once, where two may be left out, and with a value of its
kind; the dialect is what these values say. The order does not count, nor do members of other names,
and a property that is left out is the same as one that is false. -/
theorem loads_by_known_members {text : List Char} {ms : List (String × Json)}
    (h : Json.read? text = some (.objectOf ms)) :
    ((∃ d, load? text = some d) ↔ ∀ m ∈ members, m.Stands ms) ∧
    (∀ d, load? text = some d ↔ ∀ p ∈ members.zip d.memberValues, p.1.Gives ms p.2) ∧
    ∀ text' ms', Json.read? text' = some (.objectOf ms') →
      ((ms'.filter (Known ·)).Perm (ms.filter (Known ·)) → load? text' = load? text) ∧
      ∀ m ∈ members, m.optional = true → m.name ∉ ms.map Prod.fst →
        ms'.Perm ((m.name, .bool false) :: ms) → load? text' = load? text := by
  rw [load?_of_read? h]
  refine ⟨exists_ofMembers?_iff, ofMembers?_eq_some_iff ms, fun text' ms' h' => ?_⟩
  rw [load?_of_read? h']
  refine ⟨ofMembers?_eq_of_perm, fun m hm ho hnot hperm => ?_⟩
  rw [ofMembers?_eq_of_perm (hperm.filter _)]
  exact ofMembers?_cons_false hm ho hnot

/-- The required properties of a dialect of its own. -/
def duckMembers : List (String × Json) :=
  [("name", .text "duck"), ("quote_open", .text "["), ("quote_close", .text "]"),
   ("placeholder", .object [(some "dollar", .null)]), ("supports_if_exists", .bool true),
   ("supports_returning", .bool true), ("supports_auto_increment", .bool false),
   ("auto_increment_keyword", .text ""), ("supports_drop_behavior", .bool true),
   ("supports_multiple_alter_actions", .bool false), ("upsert_syntax", .text "standard"),
   ("boolean_literals", .text "keywords")]

/-- The document loads, as it does turned around behind a member of another name, and with the last
property written out. -/
theorem loads_duck :
    Json.read? (Json.objectOf duckMembers).write = some (.objectOf duckMembers) ∧
    (∃ d, load? (Json.objectOf duckMembers).write = some d) ∧
    (∀ m ∈ members, m.Stands duckMembers) ∧
    load? (Json.objectOf (("version", .array [.number ['1'], .object [(none, .null)]]) ::
        duckMembers.reverse)).write = load? (Json.objectOf duckMembers).write ∧
    load? (Json.objectOf (duckMembers ++ [("escape_backslash", .bool false)])).write =
      load? (Json.objectOf duckMembers).write := by
  have hobject (key : Option String) : (Json.object [(key, .null)]).Proper :=
    .object (by simp [Json.Proper.null])
  have hduck : ∀ m ∈ duckMembers, m.2.Proper := by
    simp [duckMembers, Json.text, hobject, Json.Proper.string, Json.Proper.bool]
  have hone : (Json.number ['1']).Proper := .number rfl
  have hversion : (Json.array [.number ['1'], .object [(none, .null)]]).Proper :=
    .array (by simp [hone, hobject])
  have hread := Json.read?_objectOf hduck
  have hloads : ∃ d, load? (Json.objectOf duckMembers).write = some d := by
    rw [load?_of_read? hread]
    exact ⟨_, rfl⟩
  obtain ⟨hstands, -, hsame⟩ := loads_by_known_members hread
  refine ⟨hread, hloads, hstands.1 hloads, ?_, ?_⟩
  · refine (hsame _ _ (Json.read?_objectOf ?_)).1 ?_
    · exact List.forall_mem_cons.2 ⟨hversion, fun m hm => hduck m (List.mem_reverse.1 hm)⟩
    · rw [List.filter_cons_of_neg (by simp [Known, members])]
      exact (List.reverse_perm _).filter _
  · refine (hsame _ _ (Json.read?_objectOf ?_)).2 ⟨"escape_backslash", .truth, true⟩ ?_ rfl ?_ ?_
    · exact List.forall_mem_append.2 ⟨hduck, List.forall_mem_singleton.2 (.bool false)⟩
    · simp [members]
    · simp [duckMembers]
    · exact List.perm_append_singleton _ _

end Dialect

end PolySql
