import Mathlib.Data.List.Infix
import ApiView.Proofs.Build.MethodNames
import ApiView.Proofs.Build.Outline
import ApiView.Proofs.Security.Credentials

/-!
# Insertion — operations do not interfere

A build keeps names and credentials for the whole document, and could let one operation show in the
method of another.  This file compares the views of two documents of which one lists more items, put in
anywhere:

* `marked`, `spread`: the elements of a row that are marked, and the marks that groups hand on;
* `Inserted`: a document that lists the items of another one, and more;
* `drafts_of_inserted`: the drafts of the smaller document are among those of the larger one;
* `Extends`: what the view of the larger document keeps of the other view;
* `view_extends_of_inserted`: names apart, no method depends on the items that were put in.
-/

namespace ApiView

/-! ## Marked rows -/

section Marked

variable {α β : Type} {R : α → β → Prop} {marks : List Bool} {xs : List α} {ys : List β}

/-- The elements of a row that are marked. -/
def marked : List Bool → List α → List α
  | true :: marks, x :: xs => x :: marked marks xs
  | false :: marks, _ :: xs => marked marks xs
  | _, _ => []

/-- The marks of groups, handed on to the elements of each group. -/
def spread (group : α → List β) : List Bool → List α → List Bool
  | mark :: marks, x :: xs => List.replicate (group x).length mark ++ spread group marks xs
  | _, _ => []

@[simp]
theorem marked_nil (marks : List Bool) : marked marks ([] : List α) = [] := by
  cases marks with
  | nil => rfl
  | cons mark marks => cases mark <;> rfl

theorem marked_sublist (marks : List Bool) (xs : List α) : (marked marks xs).Sublist xs := by
  induction xs generalizing marks with
  | nil =>
      simp
  | cons x xs ih =>
      cases marks with
      | nil =>
          exact List.nil_sublist _
      | cons mark marks =>
          cases mark with
          | true => exact (ih marks).cons_cons x
          | false => exact (ih marks).cons x

theorem forall₂_marked (marks : List Bool) :
    List.Forall₂ R xs ys → List.Forall₂ R (marked marks xs) (marked marks ys) := by
  intro h
  induction h generalizing marks with
  | nil =>
      simp
  | cons hhead _ ih =>
      cases marks with
      | nil =>
          exact List.Forall₂.nil
      | cons mark marks =>
          cases mark with
          | true => exact List.Forall₂.cons hhead (ih marks)
          | false => exact ih marks

/-- A group that is marked as a whole is kept, and dropped otherwise. -/
theorem marked_replicate_append (mark : Bool) (group rest : List α) (marks : List Bool) :
    marked (List.replicate group.length mark ++ marks) (group ++ rest) =
      (if mark then group else []) ++ marked marks rest := by
  induction group with
  | nil =>
      cases mark <;> rfl
  | cons x group ih =>
      cases mark with
      | true => simpa [marked, List.replicate_succ] using ih
      | false => simpa [marked, List.replicate_succ] using ih

/-- The marked elements of all groups are the elements of the marked groups. -/
theorem marked_flatMap (group : α → List β) :
    marked (spread group marks xs) (xs.flatMap group) = (marked marks xs).flatMap group := by
  induction xs generalizing marks with
  | nil =>
      simp
  | cons x xs ih =>
      cases marks with
      | nil =>
          rfl
      | cons mark marks =>
          rw [spread, List.flatMap_cons, marked_replicate_append, ih]
          cases mark with
          | true => rfl
          | false => rfl

theorem length_spread (group : α → List β) :
    marks.length = xs.length → (spread group marks xs).length = (xs.flatMap group).length := by
  intro hlength
  induction xs generalizing marks with
  | nil =>
      cases marks <;> rfl
  | cons x xs ih =>
      cases marks with
      | nil =>
          cases hlength
      | cons mark marks =>
          have htail : (spread group marks xs).length = (xs.flatMap group).length :=
            ih (by simpa using hlength)
          simp only [spread, List.flatMap_cons, List.length_append, List.length_replicate, htail]

end Marked

namespace Build

variable {grammar : Grammar} {kept : List Bool} {base wide : Entries} {options : Options}
  {target : Target}

/-! ## Documents with more items -/

/-- One document lists the marked items of another one, in the same order, and says the same
otherwise. -/
structure Inserted (grammar : Grammar) (kept : List Bool) (base wide : Entries) : Prop where
  alike : Alike grammar base wide
  length : kept.length = (items grammar wide).length
  listed : items grammar base = marked kept (items grammar wide)

/-- The marks of the operations of a document: those of the items that they come from. -/
def operationMarks (grammar : Grammar) (kept : List Bool) (wide : Entries) : List Bool :=
  spread (itemOperations grammar) kept (items grammar wide)

namespace Inserted

/-- The marked operations of the larger document are those of the smaller one. -/
theorem marked_retained (h : Inserted grammar kept base wide) :
    marked (operationMarks grammar kept wide) (retained grammar wide) = retained grammar base := by
  calc
    marked (operationMarks grammar kept wide) (retained grammar wide)
        = marked (spread (itemOperations grammar) kept (items grammar wide))
            ((items grammar wide).flatMap (itemOperations grammar)) := by
          rw [operationMarks, retained_eq_flatMap]
    _ = (marked kept (items grammar wide)).flatMap (itemOperations grammar) := marked_flatMap _
    _ = retained grammar base := by
          rw [← h.listed, retained_eq_flatMap]

theorem length_operationMarks (h : Inserted grammar kept base wide) :
    (operationMarks grammar kept wide).length = (retained grammar wide).length := by
  rw [operationMarks, length_spread _ h.length, retained_eq_flatMap]

/-- A walk that ends over all items ends over some of them. -/
theorem steps_unbroken (h : Inserted grammar kept base wide) :
    (∀ e, .broken e ∉ steps grammar wide) → ∀ e, .broken e ∉ steps grammar base := by
  intro hwide e hbase
  have hitems : (items grammar base).Sublist (items grammar wide) := by
    rw [h.listed]
    exact marked_sublist kept _
  -- A step that breaks off belongs to an item, and the item is listed in both documents.
  rw [steps_eq_flatMap] at hbase
  obtain ⟨item, hitem, hstep⟩ := List.mem_flatMap.1 hbase
  have hmem : .broken e ∈ steps grammar wide := by
    rw [steps_eq_flatMap]
    exact List.mem_flatMap.2 ⟨item, hitems.subset hitem, hstep⟩
  exact hwide e hmem

end Inserted

/-! ## Drafts of both documents -/

/-- The drafts of the smaller document are the marked ones of the larger one. -/
theorem drafts_of_inserted (h : Inserted grammar kept base wide) {serverSide : Bool}
    {drafts : List Method} :
    (draftAll grammar ⟨wide, options, serverSide⟩ (steps grammar wide)).outcome = .ok drafts →
      (draftAll grammar ⟨base, options, serverSide⟩ (steps grammar base)).outcome =
        .ok (marked (operationMarks grammar kept wide) drafts) := by
  intro hwide
  obtain ⟨ops, hops, hmethods⟩ := exists_operations_of_draftAll hwide
  have hunbroken := h.steps_unbroken (exists_operationsOf_iff.1 ⟨ops, hops⟩)
  have hbase := operationsOf_steps_of_unbroken hunbroken
  -- Each operation of the smaller document has the method that it has in the larger one.
  have hmarked := forall₂_marked (operationMarks grammar kept wide) hmethods
  rw [operationsOf_steps hops, h.marked_retained] at hmarked
  refine draftAll_of_methods hbase (hmarked.imp ?_)
  intro op m hm
  rwa [method_congr h.alike]

/-- Items that follow all others add methods behind those of the others. -/
theorem prefix_drafts (h : Alike grammar base wide) {serverSide : Bool} {more : List (Scalar × Value)}
    {drafts drafts' : List Method} (hmore : items grammar wide = items grammar base ++ more) :
    (draftAll grammar ⟨base, options, serverSide⟩ (steps grammar base)).outcome = .ok drafts →
      (draftAll grammar ⟨wide, options, serverSide⟩ (steps grammar wide)).outcome = .ok drafts' →
        drafts <+: drafts' := by
  intro hbase hwide
  obtain ⟨ops, hops, hmethods⟩ := exists_operations_of_draftAll hbase
  obtain ⟨ops', hops', hmethods'⟩ := exists_operations_of_draftAll hwide
  have happend : ops' = ops ++ more.flatMap (itemOperations grammar) := by
    rw [operationsOf_steps hops, operationsOf_steps hops', retained_eq_flatMap, retained_eq_flatMap,
      hmore, List.flatMap_append]
  have hfirst : List.Forall₂ (fun op m => (method grammar ⟨base, options, serverSide⟩ op).outcome =
      .ok m) ops (drafts'.take ops.length) := by
    rw [happend] at hmethods'
    refine (List.forall₂_take_append drafts' ops _ hmethods'.flip).flip.imp ?_
    intro op m hm
    rwa [method_congr h]
  -- Both rows are the methods of the same operations.
  have hdrafts := mapM_eq_ok_iff.2 hmethods
  rw [mapM_eq_ok_iff.2 hfirst] at hdrafts
  cases hdrafts
  exact List.take_prefix _ _

/-- Further methods at the end leave the names of the first ones alone. -/
theorem prefix_nameMethods {drafts drafts' : List Method} :
    drafts <+: drafts' → nameMethods drafts <+: nameMethods drafts' := by
  rintro ⟨more, rfl⟩
  -- Later requests for names change no earlier answer.
  obtain ⟨moreNames, hnames⟩ := Naming.prefix_distinct (drafts.map (·.name)) (more.map (·.name))
  have hlength : drafts.length = (Naming.distinct (drafts.map (·.name))).length := by
    rw [← (Naming.distinct_forall₂ (drafts.map (·.name))).length_eq, List.length_map]
  unfold nameMethods
  rw [List.map_append, ← hnames, List.zipWith_append hlength]
  exact List.prefix_append _ _

/-! ## Views of both documents -/

/-- What the view of the larger document keeps of the view of the smaller one.  Its methods stand for
the operations in order, so those at the marks come from the items of the smaller document. -/
structure Extends (grammar : Grammar) (kept : List Bool) (base wide : Entries) (v w : View) : Prop where
  represents : List.Forall₂ (Represents grammar) (retained grammar wide) w.methods
  marks : (operationMarks grammar kept wide).length = (retained grammar wide).length
  origins : marked (operationMarks grammar kept wide) (retained grammar wide) = retained grammar base
  methods : List.Forall₂ (fun m m' => m' = { m with name := m'.name }) v.methods
    (marked (operationMarks grammar kept wide) w.methods)
  leading : (∃ more, items grammar wide = items grammar base ++ more) → v.methods <+: w.methods
  definitions : w.definitions = v.definitions
  schemes : w.schemes = v.schemes
  domain : w.domain = v.domain
  description : w.description = v.description
  isSecure : w.isSecure = v.isSecure
  credentials : ∀ kind, v.credentials.has kind = true → w.credentials.has kind = true

/-- Operations do not interfere.  Where a document has a view, it also has one without some of its
items; the methods of the others stay the same up to their names, and even these stay where the items
left out are the last ones. -/
theorem view_extends_of_inserted (h : Inserted grammar kept base wide) {w : View}
    (hw : (view grammar (.map wide) options target).outcome = .ok w) :
    ∃ v, (view grammar (.map base) options target).outcome = .ok v ∧
      Extends grammar kept base wide v w := by
  obtain ⟨_, _, hentries, hviewed⟩ := viewed_of_view hw
  cases hentries
  obtain ⟨_, drafts, outside, hdocument, hdrafts, hframe, rfl⟩ := view_eq_ok_iff.1 hw
  cases hdocument
  have hbase := drafts_of_inserted h hdrafts
  have hframe' : frame grammar base options target = .ok outside := by
    rw [frame_congr h.alike, hframe]
  refine ⟨outside.withMethods (marked (operationMarks grammar kept wide) drafts),
    view_eq_ok_iff.2 ⟨base, _, outside, rfl, hbase, hframe', rfl⟩, ?_⟩
  exact
    { represents := by
        refine hviewed.methods_forall₂.imp ?_
        rintro op m ⟨draft, hdraft, hm, hname⟩
        exact represents_of_method hdraft hm hname
      marks := h.length_operationMarks
      origins := h.marked_retained
      methods := by
        -- The methods on both sides are those drafts under new names.
        have hwide := forall₂_marked (operationMarks grammar kept wide) (nameMethods_forall₂ drafts)
        have hnamed := nameMethods_forall₂ (marked (operationMarks grammar kept wide) drafts)
        refine (forall₂_through hnamed.flip hwide).imp ?_
        rintro m m' ⟨draft, ⟨hm, _⟩, hm', _⟩
        rw [hm, hm']
      leading := by
        rintro ⟨more, hmore⟩
        exact prefix_nameMethods (prefix_drafts h.alike hmore hbase hdrafts)
      definitions := rfl
      schemes := rfl
      domain := rfl
      description := rfl
      isSecure := rfl
      credentials := by
        intro kind hkind
        obtain ⟨m, hm, hflag⟩ := credentialsOf_has_iff.1 hkind
        exact credentialsOf_has_iff.2 ⟨m, (marked_sublist _ _).subset hm, hflag⟩ }

/-- A document that lists the given path items. -/
def listingDocument (listed : List (String × Value)) : Entries :=
  [(.str "securityDefinitions", .object [("login", .object [("type", .str "basic")])]),
    (.str "paths", .object listed)]

/-- An operation that asks for the name which others ask for, too. -/
def listOperation (members : List (String × Value)) : Value :=
  .object [("get", .object (("operationId", .str "list") :: members))]

theorem alike_listingDocument (listed listed' : List (String × Value)) :
    Alike .swagger2 (listingDocument listed) (listingDocument listed') := by
  intro name hname
  have hpaths : Scalar.str "paths" ≠ .str name := by
    intro heq
    cases heq
    exact hname rfl
  unfold listingDocument
  by_cases hsecurity : Scalar.str "securityDefinitions" = .str name
  · cases hsecurity
    rw [Entries.member?_cons_self, Entries.member?_cons_self]
  · rw [Entries.member?_cons_of_ne hsecurity, Entries.member?_cons_of_ne hsecurity,
      Entries.member?_cons_of_ne hpaths, Entries.member?_cons_of_ne hpaths]

/-- The paths `/pets` and `/dogs`. -/
def smallListing : Entries :=
  listingDocument [("/pets", listOperation []), ("/dogs", listOperation [])]

/-- The same paths with a secured one between them. -/
def largeListing : Entries :=
  listingDocument [("/pets", listOperation []),
    ("/cats", listOperation [("security", .list [.object [("login", .list [])]])]),
    ("/dogs", listOperation [])]

/-- An item between two others takes the name of the second, and nothing else. -/
theorem largeListing_view_extends :
    Inserted .swagger2 [true, false, true] smallListing largeListing ∧
      ∃ w, (view .swagger2 (.map largeListing) {} .custom).outcome = .ok w ∧
        w.methods.map (fun m => (m.path, m.name, m.credentials.basic)) =
          [("/pets", "list", false), ("/cats", "list_1", true), ("/dogs", "list_2", false)] ∧
        ∃ v, (view .swagger2 (.map smallListing) {} .custom).outcome = .ok v ∧
          Extends .swagger2 [true, false, true] smallListing largeListing v w := by
  have hinserted : Inserted .swagger2 [true, false, true] smallListing largeListing :=
    ⟨alike_listingDocument _ _, rfl, rfl⟩
  have hrun : (view .swagger2 (.map largeListing) {} .custom).outcome.toOption.map
      (fun w => w.methods.map fun m => (m.path, m.name, m.credentials.basic)) =
        some [("/pets", "list", false), ("/cats", "list_1", true), ("/dogs", "list_2", false)] := by
    decide +kernel
  obtain ⟨w, hw, hmethods⟩ := exists_ok_of_toOption_map hrun
  exact ⟨hinserted, w, hw, hmethods, view_extends_of_inserted hinserted hw⟩

end Build
end ApiView
