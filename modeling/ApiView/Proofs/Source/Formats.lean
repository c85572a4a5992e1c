import ApiView.Proofs.Source.Failures
import ApiView.Proofs.Yaml.Composing
import ApiView.Proofs.Yaml.Scanning

/-!
# Formats — a JSON document read as YAML

A document in JSON is meant to be a document in YAML as well, so that it does not matter what is known of
its format.  That holds of portable texts:

* `Yaml.read_of_written`, `Yaml.read_of_portable`: the YAML reader on a portable JSON text;
* `load_of_portable`: the document is the same whatever the hint is and whichever source provides it;
* `hint_changes_power`: an exponent without a sign makes a number a text.
-/

namespace ApiView

namespace Yaml

variable {gap text gap' : List Char} {tokens : List Token} {entries : Entries}

/-- A mapping that is written in a text is what the text is read as. -/
theorem read_of_written (hallowed : (Text.codes (gap ++ (text ++ gap'))).all isAllowed = true)
    (hgap : Gap gap) (h : Written (.value (.map entries)) text tokens) (hgap' : Gap gap') :
    read (gap ++ (text ++ gap')) = .ok (.map entries) := by
  obtain ⟨n, hn, hmeans⟩ := ofTokens_of_written h
  rw [read, scan_of_written hallowed hgap h hgap']
  simp only [hn, ok_bind]
  rw [hmeans.clear.result, hmeans.value]

/-- A mapping in portable JSON is the same mapping in YAML. -/
theorem read_of_portable (hread : Json.read text = .ok (.map entries))
    (hportable : Json.isPortable text = true) : read text = .ok (.map entries) := by
  rw [Json.isPortable, Bool.and_eq_true] at hportable
  obtain ⟨hallowed, hpieces⟩ := hportable
  obtain ⟨gap, body, tokens, gap', rfl, hgap, hgap', hwritten⟩ := written_of_read hread hpieces
  exact read_of_written hallowed hgap hwritten hgap'

end Yaml

variable {text : List Char} {entries : Entries}

/-! ## Hints -/

theorem read_of_readContent (h : readContent .json text = .ok entries) :
    Json.read text = .ok (.map entries) := by
  rw [readContent, if_neg (by decide), readJson] at h
  cases hread : Json.read text with
  | error fault =>
      rw [hread] at h
      dsimp only at h
      split at h
      · cases h
      · cases h
  | ok v =>
      rw [hread] at h
      cases v with
      | map members =>
          cases h
          rfl
      | _ =>
          cases h

/-- A document in portable JSON is the same whatever is known of its format, and whichever source provides
it. -/
theorem load_of_portable (hjson : readContent .json text = .ok entries)
    (hportable : Json.isPortable text = true) :
    (∀ hint, readContent hint text = .ok entries) ∧
      ∀ around source hint, Provides around source hint text → load around source = .ok entries := by
  have hread := read_of_readContent hjson
  have hhint : ∀ hint, readContent hint text = .ok entries := by
    intro hint
    cases hint with
    | json =>
        exact hjson
    | yaml =>
        rw [readContent, if_pos (by decide), readYaml, Yaml.read_of_portable hread hportable]
        rfl
    | unknown =>
        rw [readContent, if_neg (by decide), readJson, hread]
        rfl
  refine ⟨hhint, fun around source hint hprovides => ?_⟩
  rw [load_of_provides hprovides, hhint hint]

/-- A document with numbers, a word, escapes and empty brackets, on two lines. -/
def portableText : List Char :=
  "\x7b\"limit\": [20, -2.5e+3, \"\\u00e9\\n\"],\n \"open\" : \x7b\"none\": null, \"left\": []\x7d\x7d".toList

/-- Its members; the second number is minus 2500. -/
def portableEntries : Entries :=
  [(.str "limit", .list [.scalar (.int 20), .scalar (.float ⟨13881088010067378176⟩), .str "\u00e9\n"]),
    (.str "open", .map [(.str "none", .scalar .null), (.str "left", .list [])])]

theorem portableText_loads :
    readContent .json portableText = .ok portableEntries ∧ Json.isPortable portableText = true ∧
      (∀ hint, readContent hint portableText = .ok portableEntries) ∧
        ∀ around source hint, Provides around source hint portableText →
          load around source = .ok portableEntries := by
  have hjson : readContent .json portableText = .ok portableEntries := by decide +kernel
  have hportable : Json.isPortable portableText = true := by decide +kernel
  exact ⟨hjson, hportable, load_of_portable hjson hportable⟩

/-- A thousand, written with an exponent, is a number in JSON and a text in YAML. -/
theorem hint_changes_power :
    readContent .json "\x7b\"a\": 1e3\x7d".toList =
        .ok [(.str "a", .scalar (.float ⟨4652007308841189376⟩))] ∧
      readContent .yaml "\x7b\"a\": 1e3\x7d".toList = .ok [(.str "a", .str "1e3")] := by
  decide +kernel

end ApiView
