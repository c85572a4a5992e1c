import ApiView.Proofs.Build.MethodNames
import ApiView.Proofs.Naming.Identifier

/-!
# SafeNames — the characters of method names

A method is named after an explicit id or after a verb and a path.  Its name always begins like an
identifier, but only an explicit id is looked at character by character: a letter of a path may leave a
mark behind when it changes its case.

* `SafelyNamed`: what holds of the name of a method, whatever it is named after;
* `methods_safelyNamed`: it holds of all methods of a view;
* `dottedDocument_unsafe`: a path whose name is no identifier.
-/

namespace ApiView
namespace Build

/-! ## One name -/

/-- The name of a method begins like an identifier and holds identifier characters and marks.  It is an
identifier if it holds no mark, and in any case if the operation has an id of its own. -/
structure SafelyNamed (grammar : Grammar) (op : Operation) (m : Method) : Prop where
  start : ∃ c rest, m.name.toList = c :: rest ∧ Text.isDigit c = false
  chars : ∀ c ∈ m.name.toList, Naming.isIdentifierChar c = true ∨ c ∈ Text.caseMarks
  fixed : Naming.identifier m.name = m.name ↔ ∀ c ∈ m.name.toList, c ∉ Text.caseMarks
  explicit : (∃ id, explicitId grammar op.node = .str id ∧ Text.isBlankText id = false) →
    Naming.identifier m.name = m.name

/-- The verb in front of the name of a path is an identifier. -/
theorem isIdentifier_lower_word (verb : Verb) :
    Naming.IsIdentifier (Text.lower verb.word.toList) := by
  refine ⟨?_, ?_⟩
  · cases verb <;> exact List.all_eq_true.1 (by decide +kernel)
  · cases verb <;> exact ⟨_, _, rfl, by decide⟩

theorem isName_of_asksFor {op : Operation} {explicit : Value} {base : String} :
    AsksFor op explicit base → Naming.IsName Naming.IsMarkedChar base.toList := by
  intro h
  rcases h with ⟨id, _, _, rfl⟩ | ⟨_, path, _, rfl⟩
  · have hidentifier := Naming.isIdentifier_identifierChars id.toList
    rw [Naming.identifier, String.toList_ofList]
    exact hidentifier.imp fun _ _ => Or.inl
  · exact Naming.isName_pathName (isIdentifier_lower_word op.verb) path

/-- An explicit id that is not blank asks for an identifier. -/
theorem isIdentifier_of_asksFor {op : Operation} {explicit : Value} {base id : String}
    (hid : explicit = .str id) (hblank : Text.isBlankText id = false) :
    AsksFor op explicit base → Naming.IsIdentifier base.toList := by
  intro h
  rcases h with ⟨id', _, _, rfl⟩ | ⟨hnone, _⟩
  · rw [Naming.identifier, String.toList_ofList]
    exact Naming.isIdentifier_identifierChars id'.toList
  · rw [hnone id hid] at hblank
    cases hblank

/-- A name keeps its shape when it is made distinct. -/
theorem isName_of_distinct {allowed : Char → Prop} {base name : String}
    (hallowed : ∀ c, Naming.isIdentifierChar c = true → allowed c)
    (hbase : Naming.IsName allowed base.toList) :
    (name = base ∨ ∃ k, 1 ≤ k ∧ name = Naming.Allocator.suffixed base k) →
      Naming.IsName allowed name.toList := by
  intro h
  rcases h with rfl | ⟨k, _, rfl⟩
  · exact hbase
  · exact hbase.suffixed hallowed k

/-- A method that represents an operation is named safely. -/
theorem safelyNamed_of_represents {grammar : Grammar} {op : Operation} {m : Method} :
    Represents grammar op m → SafelyNamed grammar op m := by
  intro h
  obtain ⟨base, hasks, hname⟩ := h.name
  have hmarked := isName_of_distinct (fun _ => Or.inl) (isName_of_asksFor hasks) hname
  refine ⟨hmarked.start, hmarked.chars, ?_, ?_⟩
  · rw [Naming.identifier_eq_self_iff, hmarked.isIdentifier_iff]
  · rintro ⟨id, hid, hblank⟩
    -- An explicit id is an identifier already, and stays one when a number is put behind it.
    have hbase := isIdentifier_of_asksFor hid hblank hasks
    rw [Naming.identifier_eq_self_iff]
    exact isName_of_distinct (fun _ hc => hc) hbase hname

/-! ## All names -/

/-- Every method of a view is safely named, whatever the document, the options and the target. -/
theorem methods_safelyNamed {grammar : Grammar} {document : Value} {options : Options}
    {target : Target} {v : View} (h : (view grammar document options target).outcome = .ok v) :
    ∃ entries, document = .map entries ∧
      List.Forall₂ (SafelyNamed grammar) (retained grammar entries) v.methods := by
  obtain ⟨entries, drafts, hdocument, hv⟩ := viewed_of_view h
  refine ⟨entries, hdocument, hv.methods_forall₂.imp ?_⟩
  rintro op m ⟨draft, hdraft, hm, hname⟩
  exact safelyNamed_of_represents (represents_of_method hdraft hm hname)

/-- A path of a letter whose small form has a mark, and of an id that holds the letter itself. -/
def dottedDocument : Entries :=
  [(.str "swagger", .str "2.0"),
   (.str "paths", .object
    [("/\u0130", .object
      [("get", .object []), ("put", .object [("operationId", .str "put \u0130")])])])]

theorem dottedDocument_methods_safelyNamed :
    ∃ v, (view .swagger2 (.map dottedDocument) {} .custom).outcome = .ok v ∧
      v.methods.map (·.name) = ["getI\u0307", "put_\u0130"] ∧
        ∃ entries, Value.map dottedDocument = .map entries ∧
          List.Forall₂ (SafelyNamed .swagger2) (retained .swagger2 entries) v.methods := by
  have hrun : ((view .swagger2 (.map dottedDocument) {} .custom).outcome.toOption.map
      fun v => v.methods.map (·.name)) = some ["getI\u0307", "put_\u0130"] := by
    decide +kernel
  obtain ⟨v, hv, hnames⟩ := exists_ok_of_toOption_map hrun
  exact ⟨v, hv, hnames, methods_safelyNamed hv⟩

/-- Not every name of a method is left as it is when it is made into an identifier. -/
theorem dottedDocument_unsafe :
    ¬ ∀ v, (view .swagger2 (.map dottedDocument) {} .custom).outcome = .ok v →
      ∀ m ∈ v.methods, Naming.identifier m.name = m.name := by
  intro hall
  have hrun : ((view .swagger2 (.map dottedDocument) {} .custom).outcome.toOption.map
      fun v => v.methods.map (·.name)) = some ["getI\u0307", "put_\u0130"] := by
    decide +kernel
  obtain ⟨v, hv, hnames⟩ := exists_ok_of_toOption_map hrun
  have hmem : "getI\u0307" ∈ v.methods.map (·.name) := by
    rw [hnames]
    exact List.mem_cons_self
  obtain ⟨m, hm, hname⟩ := List.mem_map.1 hmem
  -- The small form of the letter ends in a mark, which an identifier has no place for.
  have hfixed := hall v hv m hm
  have hchanged : Naming.identifier "getI\u0307" ≠ "getI\u0307" := by decide +kernel
  rw [hname] at hfixed
  exact hchanged hfixed

end Build
end ApiView
