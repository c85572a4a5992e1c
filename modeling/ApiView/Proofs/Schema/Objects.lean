import ApiView.Proofs.Schema.Typed
import ApiView.Proofs.Text.Pieces

/-!
# Objects — members that are told by the type of an object

The type of an object has the name of each member between quotes, as it is.  A quote inside a name ends the
key for a reader, and whatever follows in the name is read as a type and further members.  This is the only
way in which two objects with different members get one type:

* `Member`, `objectOf`: a member of an object, and the object in writing;
* `Member.RunsInto`: a name that goes on as if another member had ended in it;
* `IsPlain`: types that hold neither quotes nor semicolons;
* `further_inj`: members are told by what is written of them, unless one runs into another;
* `objectOf_joined`: any two members in a row are written like one, whose name the first runs into;
* `IsObject`, `Lists`, `exists_lists`: nodes that are objects, and the members they list;
* `members_eq_or_runsInto`: two nodes of one type.
-/

namespace ApiView
namespace TypeText

/-! ## Members in writing -/

/-- A member of an object type: its name, whether it may be left out, and its type. -/
structure Member where
  name : String
  optional : Bool
  type : String
deriving DecidableEq

/-- The mark behind the name of a member. -/
def mark (optional : Bool) : String :=
  if optional then "?" else ""

namespace Member

/-- What stands behind the quote that ends the name. -/
def tail (m : Member) : String :=
  mark m.optional ++ ": " ++ m.type

/-- A member in writing. -/
def text (m : Member) : String :=
  "'" ++ m.name ++ "'" ++ m.tail

/-- The name of the second member goes on as if the first one had ended in it. -/
def RunsInto (m m' : Member) : Prop :=
  ∃ more, m'.name = m.name ++ "'" ++ m.tail ++ "; " ++ more

/-- The member that is written like two in a row. -/
def join (m m' : Member) : Member :=
  { m' with name := m.name ++ "'" ++ m.tail ++ "; '" ++ m'.name }

end Member

/-- An object type with the given members. -/
def objectOf (members : List Member) : String :=
  "\x7b " ++ "; ".intercalate (members.map Member.text) ++ " \x7d"

/-- What follows the members in front of some others, up to the end of the object. -/
def further : List Member → List Char
  | [] => [' ', '\x7d']
  | m :: rest => ';' :: ' ' :: (m.text.toList ++ further rest)

variable {m m' : Member} {ms ms' rest rest' : List Member}

/-- An object type begins with its first member. -/
theorem toList_objectOf_cons (m : Member) (rest : List Member) :
    (objectOf (m :: rest)).toList = '\x7b' :: ' ' :: (m.text.toList ++ further rest) := by
  -- The induction goes over what follows a first member, whichever that is.
  have hrow : ∀ m : Member,
      [';', ' '].intercalate ((m :: rest).map fun m => m.text.toList) ++ [' ', '\x7d'] =
        m.text.toList ++ further rest := by
    induction rest with
    | nil =>
        intro m
        simp [further]
    | cons next rest ih =>
        intro m
        rw [List.map_cons, List.map_cons, List.intercalate_cons_cons, List.append_assoc,
          List.append_assoc]
        exact congrArg _ (congrArg _ (ih next))
  have htexts : ((m :: rest).map Member.text).map String.toList = (m :: rest).map fun m => m.text.toList :=
    List.map_map
  rw [objectOf, String.toList_append, String.toList_append, String.toList_intercalate, htexts,
    List.append_assoc]
  exact congrArg _ (hrow m)

/-- Two members in a row are written like one. -/
theorem objectOf_joined (m m' : Member) (rest : List Member) :
    objectOf (m :: m' :: rest) = objectOf (m.join m' :: rest) := by
  rw [← String.toList_inj, toList_objectOf_cons, toList_objectOf_cons, further]
  simp [Member.text, Member.join, Member.tail]

/-! ## Plain types -/

/-- A type that holds no quotes and no semicolons. -/
def IsPlain (type : String) : Prop :=
  '\'' ∉ type.toList ∧ ';' ∉ type.toList

instance (type : String) : Decidable (IsPlain type) :=
  inferInstanceAs (Decidable (_ ∧ _))

/-- The names of types that a schema may declare. -/
def primitiveNames : List String :=
  ["string", "integer", "number", "boolean", "null", "file", "void"]

/-- The types of primitive names are plain, with null added to them or not. -/
theorem isPlain_primitive :
    ∀ name ∈ primitiveNames, ∀ nullable, IsPlain (withNull nullable (primitive name)) := by
  decide +kernel

/-- There is no quote behind the name of a member with a plain type. -/
theorem notMem_tail (hplain : IsPlain m.type) : '\'' ∉ m.tail.toList := by
  have hmark : ∀ optional, '\'' ∉ (mark optional).toList := by decide
  simp only [Member.tail, String.toList_append, List.mem_append, not_or]
  exact ⟨⟨hmark _, by decide⟩, hplain.1⟩

/-! ## Members that are told from each other -/

/-- Types that are followed by further members end at the same place. -/
theorem type_inj {type type' : String} (hplain : IsPlain type) (hplain' : IsPlain type') :
    type.toList ++ further rest = type'.toList ++ further rest' →
      type = type' ∧ further rest = further rest' := by
  intro h
  -- A semicolon follows a type, or none does in what is left.
  have hlast : ∀ {t t' : String} {m : Member} {rest : List Member}, ';' ∉ t.toList →
      t.toList ++ further [] ≠ t'.toList ++ further (m :: rest) := by
    intro t t' m rest hfree hsame
    have hmem : ';' ∈ t.toList ++ further [] := by
      rw [hsame]
      simp [further]
    rcases List.mem_append.1 hmem with hin | hin
    · exact hfree hin
    · exact absurd hin (by decide)
  cases rest with
  | nil =>
      cases rest' with
      | nil =>
          exact ⟨String.toList_inj.1 (List.append_cancel_right h), rfl⟩
      | cons m' rest' =>
          exact absurd h (hlast hplain.2)
  | cons m rest =>
      cases rest' with
      | nil =>
          exact absurd h.symm (hlast hplain'.2)
      | cons m' rest' =>
          unfold further at h
          obtain ⟨htypes, hrest⟩ := Text.append_cons_inj hplain.2 hplain'.2 h
          exact ⟨String.toList_inj.1 htypes, congrArg (List.cons _) hrest⟩

/-- Whether a member may be left out, and its type, are told by what stands behind its name. -/
theorem tail_inj (hplain : IsPlain m.type) (hplain' : IsPlain m'.type) :
    m.tail.toList ++ further rest = m'.tail.toList ++ further rest' →
      m.optional = m'.optional ∧ m.type = m'.type ∧ further rest = further rest' := by
  intro h
  -- A question mark is no colon, so the marks are told apart at once.
  unfold Member.tail mark at h
  cases hoptional : m.optional with
  | false =>
      cases hoptional' : m'.optional with
      | false =>
          simp only [hoptional, hoptional'] at h
          exact ⟨rfl, type_inj hplain hplain' (by simpa using h)⟩
      | true =>
          simp [hoptional, hoptional'] at h
  | true =>
      cases hoptional' : m'.optional with
      | false =>
          simp [hoptional, hoptional'] at h
      | true =>
          simp only [hoptional, hoptional'] at h
          exact ⟨rfl, type_inj hplain hplain' (by simpa using h)⟩

/-- A name that goes on behind the quote of another member runs into that member: the next quote is the one
in front of the name of a further member. -/
theorem runsInto_of_longer (hplain : IsPlain m.type) {more behind : List Char}
    (hname : m'.name.toList = m.name.toList ++ '\'' :: more) :
    m.tail.toList ++ further rest = more ++ '\'' :: behind → m.RunsInto m' := by
  intro h
  have hfree := notMem_tail hplain
  -- Whether there is a further member decides where the next quote can be.
  cases rest with
  | nil =>
      -- The end of the object holds no quote.
      have hmem : '\'' ∈ m.tail.toList ++ further [] := by
        rw [h]
        simp
      rcases List.mem_append.1 hmem with hin | hin
      · exact absurd hin hfree
      · exact absurd hin (by decide)
  | cons next rest =>
      have hfree' : '\'' ∉ m.tail.toList ++ [';', ' '] := by
        simpa using hfree
      -- Both sides are parted at the quote in front of the next name; the left one has none before it.
      have hquote : (m.tail.toList ++ [';', ' ']) ++ '\'' :: (next.text.toList.tail ++ further rest) =
          more ++ '\'' :: behind := by
        rw [← h, further]
        simp [Member.text]
      obtain ⟨after, rfl⟩ := Text.prefix_of_notMem hfree' hquote
      refine ⟨String.ofList after, String.toList_inj.1 ?_⟩
      rw [hname]
      simp

/-- The first of two rows that are written alike is the same, or one of them runs into the other. -/
theorem head_eq_or_runsInto (hplain : IsPlain m.type) (hplain' : IsPlain m'.type) :
    m.text.toList ++ further rest = m'.text.toList ++ further rest' →
      (m = m' ∧ further rest = further rest') ∨ m.RunsInto m' ∨ m'.RunsInto m := by
  intro h
  have hnames : m.name.toList ++ '\'' :: (m.tail.toList ++ further rest) =
      m'.name.toList ++ '\'' :: (m'.tail.toList ++ further rest') := by
    simpa [Member.text] using h
  -- The first quote that ends a name is the same on both sides, or one of the names goes on behind it.
  rcases Text.append_cons_cases hnames with ⟨hname, hbehind⟩ | ⟨more, hname, hbehind⟩ |
    ⟨more, hname, hbehind⟩
  · obtain ⟨hoptional, htype, hrest⟩ := tail_inj hplain hplain' hbehind
    left
    refine ⟨?_, hrest⟩
    obtain ⟨name, optional, type⟩ := m
    obtain ⟨name', optional', type'⟩ := m'
    obtain rfl := String.toList_inj.1 hname
    subst hoptional htype
    rfl
  · exact Or.inr (Or.inl (runsInto_of_longer hplain hname hbehind))
  · exact Or.inr (Or.inr (runsInto_of_longer hplain' hname hbehind))

/-- Members are told by what is written of them, unless one runs into another.  The induction takes equal
members away from the front of both rows. -/
theorem further_inj (hplain : ∀ m ∈ ms, IsPlain m.type) (hplain' : ∀ m ∈ ms', IsPlain m.type) :
    further ms = further ms' →
      ms = ms' ∨ ∃ m ∈ ms, ∃ m' ∈ ms', m.RunsInto m' ∨ m'.RunsInto m := by
  intro h
  induction ms generalizing ms' with
  | nil =>
      cases ms' with
      | nil =>
          exact Or.inl rfl
      | cons m' rest' =>
          simp [further] at h
  | cons m rest ih =>
      cases ms' with
      | nil =>
          simp [further] at h
      | cons m' rest' =>
          obtain ⟨hm, hrest⟩ := List.forall_mem_cons.1 hplain
          obtain ⟨hm', hrest'⟩ := List.forall_mem_cons.1 hplain'
          have hrows : m.text.toList ++ further rest = m'.text.toList ++ further rest' := by
            simpa only [further, List.cons.injEq, true_and] using h
          -- The first members are the same, or one of them runs into the other.
          rcases head_eq_or_runsInto hm hm' hrows with ⟨rfl, hfurther⟩ | hruns
          · rcases ih hrest hrest' hfurther with rfl | ⟨n, hn, n', hn', hruns⟩
            · exact Or.inl rfl
            · exact Or.inr ⟨n, List.mem_cons_of_mem _ hn, n', List.mem_cons_of_mem _ hn', hruns⟩
          · exact Or.inr ⟨m, List.mem_cons_self, m', List.mem_cons_self, hruns⟩

/-- Objects with members are told by their types, unless one member runs into another. -/
theorem objectOf_inj (hne : ms ≠ []) (hne' : ms' ≠ []) (hplain : ∀ m ∈ ms, IsPlain m.type)
    (hplain' : ∀ m ∈ ms', IsPlain m.type) :
    objectOf ms = objectOf ms' →
      ms = ms' ∨ ∃ m ∈ ms, ∃ m' ∈ ms', m.RunsInto m' ∨ m'.RunsInto m := by
  intro h
  apply further_inj hplain hplain'
  obtain ⟨m, rest, rfl⟩ := List.exists_cons_of_ne_nil hne
  obtain ⟨m', rest', rfl⟩ := List.exists_cons_of_ne_nil hne'
  have hchars := congrArg String.toList h
  simp only [toList_objectOf_cons, List.cons.injEq, true_and] at hchars
  rw [further, further, hchars]

/-! ## Object nodes -/

/-- A node that is an object with members, whose names are texts and whose types are plain. -/
structure IsObject (node table : Entries) : Prop where
  form : form node = .declared (.str "object") ∨ form node = .declared .null
  properties : node.member? "properties" = some (.map table)
  nonempty : table ≠ []
  names : ∀ key ∈ table.keys, ∃ name, key = .str name
  plain : ∀ v ∈ table.map (·.2), ∀ type, typeText v = .ok type → IsPlain type

/-- What a property says of a member: its name, whether that is required, and its type. -/
structure Describes (required : List Scalar) (property : Scalar × Value) (m : Member) : Prop where
  name : property.1 = .str m.name
  optional : m.optional = !required.any (·.same (.str m.name))
  type : typeText property.2 = .ok m.type

/-- The members that a node lists, in the order of its properties. -/
def Lists (node table : Entries) (ms : List Member) : Prop :=
  ∃ required, requiredKeys node = .ok required ∧ List.Forall₂ (Describes required) table ms

variable {node node' table table' : Entries} {required : List Scalar} {texts : List String}
  {text : String}

/-- The texts of members come from members that describe the table. -/
theorem exists_describes (hnames : ∀ key ∈ table.keys, ∃ name, key = .str name) :
    memberTexts required table = .ok texts →
      ∃ ms, List.Forall₂ (Describes required) table ms ∧ texts = ms.map Member.text := by
  intro h
  induction table generalizing texts with
  | nil =>
      unfold memberTexts at h
      cases h
      exact ⟨[], List.Forall₂.nil, rfl⟩
  | cons property rest ih =>
      obtain ⟨key, v⟩ := property
      obtain ⟨⟨name, rfl⟩, hnames'⟩ := List.forall_mem_cons.1 hnames
      unfold memberTexts at h
      simp only [memberName_str, ok_bind, bind_eq_ok_iff, pure_eq_ok_iff] at h
      obtain ⟨type, htype, texts', htexts', rfl⟩ := h
      obtain ⟨ms, hms, rfl⟩ := ih hnames' htexts'
      refine ⟨⟨name, !required.any (·.same (.str name)), type⟩ :: ms, ?_, ?_⟩
      · exact List.Forall₂.cons ⟨rfl, rfl, htype⟩ hms
      · rw [List.map_cons, List.cons.injEq, ← String.toList_inj]
        refine ⟨?_, rfl⟩
        cases required.any (·.same (.str name)) <;> simp [Member.text, Member.tail, mark]

/-- A type that is written in braces is neither `any` nor `null`, so null is added to it if it has to be. -/
theorem withNull_objectOf (nullable : Bool) (hne : ms ≠ []) :
    withNull nullable (objectOf ms) = objectOf ms ++ if nullable then " | null" else "" := by
  obtain ⟨m, rest, rfl⟩ := List.exists_cons_of_ne_nil hne
  have hother : ∀ other : String, other.toList.head? ≠ some '\x7b' → objectOf (m :: rest) ≠ other := by
    rintro other hhead rfl
    rw [toList_objectOf_cons] at hhead
    exact hhead rfl
  have hany := hother "any" (by decide)
  have hnull := hother "null" (by decide)
  cases nullable <;> simp [withNull, hany, hnull]

/-- An object type ends with a closing brace. -/
theorem getLast?_objectOf (ms : List Member) : (objectOf ms).toList.getLast? = some '\x7d' := by
  rw [objectOf, String.toList_append, List.getLast?_append]
  rfl

/-- What ends in a brace is an object, and what ends in a letter is one that may be null. -/
theorem objectOf_eq_of_withNull {nullable nullable' : Bool} (hne : ms ≠ []) (hne' : ms' ≠ []) :
    withNull nullable (objectOf ms) = withNull nullable' (objectOf ms') → objectOf ms = objectOf ms' := by
  intro h
  rw [withNull_objectOf nullable hne, withNull_objectOf nullable' hne'] at h
  -- With null behind it a type ends in a letter, and without it in a brace.
  have hlast : ∀ ns ns' : List Member, objectOf ns ++ " | null" ≠ objectOf ns' := by
    intro ns ns' hsame
    have hend := getLast?_objectOf ns'
    rw [← hsame, String.toList_append, List.getLast?_append] at hend
    cases hend
  cases nullable with
  | false =>
      cases nullable' with
      | false =>
          simpa using h
      | true =>
          exact absurd h.symm (by simpa using hlast ms' ms)
  | true =>
      cases nullable' with
      | false =>
          exact absurd h (by simpa using hlast ms ms')
      | true =>
          have hchars := congrArg String.toList h
          rw [String.toList_append, String.toList_append] at hchars
          exact String.toList_inj.1 (List.append_cancel_right hchars)

/-- The type of an object node is the object of the members that it lists. -/
theorem exists_lists (h : IsObject node table) : typeText (.map node) = .ok text →
    ∃ ms, Lists node table ms ∧ text = withNull (node.member "nullable").isTrue (objectOf ms) := by
  intro htext
  have hstructure : (form node).isStructure = true := by
    rcases h.form with hform | hform
    · rw [hform]
      rfl
    · rw [hform]
      rfl
  -- A node without a declared type is an object because it has properties.
  have hobject : structureText node = objectText node := by
    have hproperties : node.hasMember "properties" = true := by
      rw [Entries.hasMember, h.properties]
      rfl
    rcases h.form with hform | hform
    · rw [structureText_of_declared hform]
      rfl
    · rw [structureText_of_declared hform, hproperties]
      rfl
  obtain ⟨p, ps, rfl⟩ := List.exists_cons_of_ne_nil h.nonempty
  rw [typeText_of_structure hstructure, hobject, objectText_of_members h.properties] at htext
  simp only [bind_eq_ok_iff, pure_eq_ok_iff, Except.ok.injEq] at htext
  obtain ⟨_, ⟨required, hrequired, texts, htexts, rfl⟩, rfl⟩ := htext
  obtain ⟨ms, hms, rfl⟩ := exists_describes h.names htexts
  exact ⟨ms, ⟨required, hrequired, hms⟩, rfl⟩

theorem Lists.nonempty {ms : List Member} (h : IsObject node table) (hlists : Lists node table ms) :
    ms ≠ [] := by
  rintro rfl
  obtain ⟨required, _, hms⟩ := hlists
  exact h.nonempty (List.forall₂_nil_right_iff.1 hms)

theorem Lists.plain {ms : List Member} (h : IsObject node table) (hlists : Lists node table ms) :
    ∀ m ∈ ms, IsPlain m.type := by
  intro m hm
  obtain ⟨required, _, hms⟩ := hlists
  obtain ⟨property, hproperty, hdescribes⟩ := exists_match hms.flip hm
  exact h.plain _ (List.mem_map_of_mem hproperty) _ hdescribes.type

/-! ## Nodes of primitive members -/

/-- The properties of the given names and primitive types. -/
def propertiesOf (properties : List (String × String)) : Entries :=
  properties.map fun (name, type) => (.str name, .object [("type", .str type)])

/-- The object node with members of the given names and primitive types. -/
def objectNode (required : List String) (properties : List (String × String)) : Entries :=
  [(.str "type", .str "object"), (.str "required", .list (required.map .str)),
   (.str "properties", .map (propertiesOf properties))]

/-- A schema that declares a primitive name has a plain type. -/
theorem isPlain_of_declared {name type : String} (hname : name ∈ primitiveNames)
    (hform : form node = .declared (.str name)) : typeText (.map node) = .ok type → IsPlain type := by
  intro htype
  have hstructure : (form node).isStructure = true := by
    rw [hform]
    rfl
  have hother : ∀ name ∈ primitiveNames, name ≠ "array" ∧ name ≠ "object" := by decide
  have hprimitive : structureText node = .ok (primitive name) := by
    obtain ⟨harray, hobject⟩ := hother name hname
    rw [structureText_of_declared hform]
    simp [declared, Value.str, harray, hobject]
  rw [typeText_of_structure hstructure, hprimitive, ok_bind, Except.ok.injEq] at htype
  rw [← htype]
  exact isPlain_primitive name hname _

/-- Whatever the names of such a node are, it is an object. -/
theorem isObject_objectNode {required : List String} {properties : List (String × String)}
    (hne : properties ≠ []) (htypes : ∀ property ∈ properties, property.2 ∈ primitiveNames) :
    IsObject (objectNode required properties) (propertiesOf properties) where
  form := Or.inl rfl
  properties := rfl
  nonempty := by simpa [propertiesOf] using hne
  names := by
    intro key hkey
    simp only [propertiesOf, Entries.keys, List.map_map, List.mem_map, Function.comp_apply] at hkey
    obtain ⟨property, _, rfl⟩ := hkey
    exact ⟨property.1, rfl⟩
  plain := by
    intro v hv type htype
    simp only [propertiesOf, List.map_map, List.mem_map, Function.comp_apply] at hv
    obtain ⟨property, hproperty, rfl⟩ := hv
    exact isPlain_of_declared (htypes property hproperty) rfl htype

/-! ## Nodes of one type -/

/-- Two object nodes of one type list the same members, in the same order and with the same marks and types,
unless the name of a member of one goes on as if a member of the other had ended in it. -/
theorem members_eq_or_runsInto (h : IsObject node table) (h' : IsObject node' table')
    (htext : typeText (.map node) = .ok text) (htext' : typeText (.map node') = .ok text) :
    ∃ ms ms', Lists node table ms ∧ Lists node' table' ms' ∧
      (ms = ms' ∨ ∃ m ∈ ms, ∃ m' ∈ ms', m.RunsInto m' ∨ m'.RunsInto m) := by
  obtain ⟨ms, hlists, hobject⟩ := exists_lists h htext
  obtain ⟨ms', hlists', hobject'⟩ := exists_lists h' htext'
  have hne := hlists.nonempty h
  have hne' := hlists'.nonempty h'
  have hsame := objectOf_eq_of_withNull hne hne' (hobject.symm.trans hobject')
  exact ⟨ms, ms', hlists, hlists', objectOf_inj hne hne' (hlists.plain h) (hlists'.plain h') hsame⟩

/-- Two nodes that spell out one object in two ways. -/
theorem labelled_members : ∃ ms ms',
    Lists (objectNode ["id"] [("id", "integer"), ("label", "string")])
        (propertiesOf [("id", "integer"), ("label", "string")]) ms ∧
      Lists (objectNode ["size", "id", "id"] [("id", "number"), ("label", "string")])
        (propertiesOf [("id", "number"), ("label", "string")]) ms' ∧
      (ms = ms' ∨ ∃ m ∈ ms, ∃ m' ∈ ms', m.RunsInto m' ∨ m'.RunsInto m) := by
  have htext : typeText (.map (objectNode ["id"] [("id", "integer"), ("label", "string")])) =
      .ok "\x7b 'id': number; 'label'?: string \x7d" := by
    decide +kernel
  have htext' : typeText (.map (objectNode ["size", "id", "id"] [("id", "number"), ("label", "string")])) =
      .ok "\x7b 'id': number; 'label'?: string \x7d" := by
    decide +kernel
  exact members_eq_or_runsInto (isObject_objectNode (by decide) (by decide))
    (isObject_objectNode (by decide) (by decide)) htext htext'

/-- The name of one member goes on as the name of another one, so one member is written like two. -/
theorem quotedName_like_two :
    IsObject (objectNode ["a", "b"] [("a", "string"), ("b", "string")])
        (propertiesOf [("a", "string"), ("b", "string")]) ∧
      IsObject (objectNode ["a': string; 'b"] [("a': string; 'b", "string")])
        (propertiesOf [("a': string; 'b", "string")]) ∧
      typeText (.map (objectNode ["a", "b"] [("a", "string"), ("b", "string")])) =
        .ok "\x7b 'a': string; 'b': string \x7d" ∧
      typeText (.map (objectNode ["a': string; 'b"] [("a': string; 'b", "string")])) =
        .ok "\x7b 'a': string; 'b': string \x7d" ∧
      (propertiesOf [("a", "string"), ("b", "string")]).keys ≠
        (propertiesOf [("a': string; 'b", "string")]).keys := by
  refine ⟨isObject_objectNode (by decide) (by decide), isObject_objectNode (by decide) (by decide),
    ?_, ?_, ?_⟩
  · decide +kernel
  · decide +kernel
  · decide

end TypeText
end ApiView
