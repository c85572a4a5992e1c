import ApiView.Proofs.Build.Derived
import ApiView.Proofs.Json.Compact
import ApiView.Source.Content

/-!
# Defaults — a default in writing stands for the default declared

A parameter carries its default twice: as a value, and in compact JSON for templates to put into code.
A template that writes the second under a name of its own gets a document, and reading that document gives
the first back:

* `written_of_classify`: the written default of a parameter that is kept;
* `readContent_singleMember`: a document with one member is read;
* `default_restored`: the written default is printable ASCII and is read as the declared one.
-/

namespace ApiView

/-! ## Documents with one member -/

/-- A document with one member, whose value is given in writing. -/
def singleMember (name text : String) : String :=
  "\x7b\"" ++ name ++ "\": " ++ text ++ "\x7d"

/-- What the written value denotes is found under the name.  The name may be written as it is. -/
theorem readContent_singleMember {name text : String} {v : Value} (hname : Text.isProper name = true)
    (hplain : Json.quoted Json.escapeAscii name = '"' :: (name.toList ++ ['"']))
    (hvalue : Json.Denotes (.value v) text.toList) :
    readContent .json (singleMember name text).toList = .ok [(.str name, v)] := by
  have hkey : Json.Quotes name ('"' :: (name.toList ++ ['"'])) := by
    rw [← hplain]
    exact Json.Quotes.intro Json.keepsCharacters_escapeAscii hname
  have hnamed : Entries.Named [(.str name, v)] :=
    ⟨fun key hkey => ⟨name, List.mem_singleton.1 hkey⟩, List.nodup_singleton _⟩
  have hmembers := Json.Denotes.lastMember hkey Json.blanks_nil Json.blanks_space hvalue
    Json.blanks_nil
  have hdocument := Json.Denotes.map Json.blanks_nil hnamed hmembers
  have hread := Json.read_of_denotes hdocument Json.blanks_nil Json.blanks_nil
  have htext : (singleMember name text).toList =
      '\x7b' :: '"' :: (name.toList ++ '"' :: ':' :: ' ' :: (text.toList ++ ['\x7d'])) := by
    simp [singleMember]
  have hsame : Json.read (singleMember name text).toList = .ok (.map [(.str name, v)]) := by
    simpa [htext] using hread
  rw [readContent, if_neg (by decide), readJson, hsame]
  rfl

namespace Parameter

variable {serverSide : Bool} {locationField : String} {node : Entries} {p : Parameter}

/-! ## The written default -/

theorem obstacle_of_defaultText {v : Value} {text : Option String} (hnull : v ≠ .null) :
    defaultText v = .ok text →
      Json.obstacle? v = none ∧ text = some (String.ofList (Json.compact v)) := by
  intro h
  have hpresent : ¬ v.isNull = true := fun h => hnull ((Value.isNull_iff v).1 h)
  rw [defaultText, if_neg hpresent, TypeText.literal] at h
  cases hobstacle : Json.obstacle? v with
  | none =>
      rw [hobstacle] at h
      cases h
      exact ⟨rfl, rfl⟩
  | some obstacle =>
      rw [hobstacle] at h
      cases h

/-- The written default of a parameter that is kept. -/
theorem written_of_classify (hnull : ownOrSchema node "default" ≠ .null) :
    (classify serverSide locationField (.map node)).outcome = .ok (some p) →
      Json.obstacle? (ownOrSchema node "default") = none ∧
        p.defaultJson = some (String.ofList (Json.compact (ownOrSchema node "default"))) := by
  intro h
  obtain ⟨node', name, location, hnode, hp⟩ := exists_ofNode_of_classify h
  have hsame : node = node' := by
    cases hnode
    rfl
  subst hsame
  simp only [ofNode, bind_eq_ok_iff, accept_eq_ok_iff] at hp
  obtain ⟨text, htext, _, _, _, rfl⟩ := hp
  exact obstacle_of_defaultText hnull htext

/-- The written default of a parameter that is kept is printable ASCII, and a document that has it as its
only member is read with the declared default as that member. -/
theorem default_restored
    (hkept : (classify serverSide locationField (.map node)).outcome = .ok (some p))
    (hnull : ownOrSchema node "default" ≠ .null) (hjson : (ownOrSchema node "default").isJson = true) :
    ∃ text, p.defaultJson = some text ∧ (∀ c ∈ text.toList, ' ' ≤ c ∧ c ≤ '~') ∧
      readContent .json (singleMember "default" text).toList =
        .ok [(.str "default", ownOrSchema node "default")] := by
  obtain ⟨hfree, htext⟩ := written_of_classify hnull hkept
  refine ⟨_, htext, ?_, ?_⟩
  · intro c hc
    rw [String.toList_ofList] at hc
    have hprintable := Json.printable_compact _ hjson c hc
    rwa [Json.isPrintable, Bool.and_eq_true, decide_eq_true_eq, decide_eq_true_eq] at hprintable
  · have hvalue := Json.denotes_compact _ hjson hfree
    -- The name is a fixed one, so what it has to satisfy can be computed.
    refine readContent_singleMember ?_ ?_ (by rwa [String.toList_ofList])
    · decide +kernel
    · decide +kernel

/-- A query parameter whose schema has a default with every kind of escape. -/
def quotingNode : Entries :=
  [(.str "name", .str "filter"), (.str "in", .str "query"),
   (.str "schema", .object
     [("type", .str "object"),
      ("default", .object
        [("a \"quoted\" na\u00efve\\name",
          .list [.str "line\nfeed", .str "😀", .int (-120), .bool true]),
         ("", .object []), ("x", .list [.null, .list []])])])]

theorem quotingNode_default_restored :
    ∃ p text, (classify false "in" (.map quotingNode)).outcome = .ok (some p) ∧
      p.defaultJson = some text ∧ (∀ c ∈ text.toList, ' ' ≤ c ∧ c ≤ '~') ∧
        readContent .json (singleMember "default" text).toList =
          .ok [(.str "default", ownOrSchema quotingNode "default")] := by
  have hrun : ((classify false "in" (.map quotingNode)).outcome.toOption.map Option.isSome) =
      some true := by
    decide +kernel
  obtain ⟨kept, hkept, hsome⟩ := exists_ok_of_toOption_map hrun
  obtain ⟨p, rfl⟩ := Option.isSome_iff_exists.1 hsome
  have hnull : ownOrSchema quotingNode "default" ≠ .null := by decide +kernel
  have hjson : (ownOrSchema quotingNode "default").isJson = true := by decide +kernel
  obtain ⟨text, htext⟩ := default_restored hkept hnull hjson
  exact ⟨p, text, hkept, htext⟩

end Parameter
end ApiView
