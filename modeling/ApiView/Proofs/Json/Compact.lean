import ApiView.Proofs.Json.Layout

/-!
# Compact — one line that denotes its value

The compact layout writes a value on one line.  Two facts about that line are shown side by side, for the
values that JSON has a form for:

* `Value.isJson`: null, booleans, integers, proper texts, and lists and mappings of these;
* `denotes_compact`: the line denotes the value, so that it is read back;
* `printable_compact`: the line holds printable ASCII only.
-/

namespace ApiView

/-! ## Values with a form of their own -/

mutual

/-- Whether JSON has a form of its own for every part of a value. -/
def Value.isJson : Value → Bool
  | .scalar .null | .scalar (.bool _) | .scalar (.int _) => true
  | .scalar (.str s) => Text.isProper s
  | .list items => itemsAreJson items
  | .map entries => decide (Entries.keys entries).Nodup && membersAreJson entries
  | _ => false

/-- Whether JSON has a form of its own for every item. -/
def itemsAreJson : List Value → Bool
  | [] => true
  | v :: rest => v.isJson && itemsAreJson rest

/-- Whether all keys are proper texts and JSON has a form of its own for every value under them. -/
def membersAreJson : List (Scalar × Value) → Bool
  | [] => true
  | (.str name, v) :: rest => Text.isProper name && v.isJson && membersAreJson rest
  | _ => false

end

theorem members_of_areJson {key : Scalar} {v : Value} {rest : Entries} :
    membersAreJson ((key, v) :: rest) = true →
      ∃ name, key = .str name ∧ Text.isProper name = true ∧ v.isJson = true ∧
        membersAreJson rest = true := by
  intro h
  cases key with
  | str name =>
      rw [membersAreJson, Bool.and_eq_true, Bool.and_eq_true] at h
      exact ⟨name, rfl, h.1.1, h.1.2, h.2⟩
  | _ =>
      cases h

/-- The keys of a JSON mapping are texts. -/
theorem exists_name_of_membersAreJson {entries : Entries} :
    membersAreJson entries = true → ∀ key ∈ entries.keys, ∃ name, key = .str name := by
  intro h key hkey
  induction entries with
  | nil =>
      cases hkey
  | cons entry rest ih =>
      rcases entry with ⟨first, v⟩
      obtain ⟨name, rfl, _, _, hrest⟩ := members_of_areJson h
      rcases List.mem_cons.1 hkey with rfl | hmem
      · exact ⟨name, rfl⟩
      · exact ih hrest hmem

/-- The names of a JSON mapping are distinct. -/
theorem Entries.named_of_isJson {entries : Entries} :
    (Value.map entries).isJson = true → entries.Named := by
  intro h
  rw [Value.isJson, Bool.and_eq_true, decide_eq_true_eq] at h
  exact ⟨exists_name_of_membersAreJson h.2, h.1⟩

namespace Json

/-! ## The line denotes the value -/

section Leaves

variable {escape : Nat → List Char}

/-- A key is written as a string of its name. -/
theorem quotes_keyText (hescape : KeepsCharacters escape) {name : String} :
    Text.isProper name = true → Quotes name (keyText escape (.str name)) :=
  Quotes.intro hescape

/-- A leaf is written in a form that denotes it, whatever is escaped in strings. -/
theorem denotes_scalarText (hescape : KeepsCharacters escape) {s : Scalar}
    (hjson : (Value.scalar s).isJson = true) (hfree : leafObstacle? s = none) :
    Denotes (.value (.scalar s)) (scalarText escape s) := by
  cases s with
  | null =>
      have hword : ("null".toList, Scalar.null) ∈ words := by decide
      exact Denotes.word hword
  | bool b =>
      have hwords : ∀ b, ((if b then "true".toList else "false".toList), Scalar.bool b) ∈ words := by
        decide
      exact Denotes.word (hwords b)
  | int i =>
      have hshort : (Scalar.int i).isLong = false := by
        by_contra hlong
        rw [Bool.not_eq_false] at hlong
        rw [leafObstacle?, if_pos hlong] at hfree
        cases hfree
      exact Denotes.integer hshort
  | str s =>
      exact Denotes.string (Quotes.intro hescape hjson)
  | _ =>
      cases hjson

/-- A member is written in a form that denotes it if its value is. -/
theorem isMember_keyText (hescape : KeepsCharacters escape) {name : String} {v : Value}
    {text : List Char} (hname : Text.isProper name = true) (hvalue : IsItem v text) :
    IsMember (.str name, v) (keyText escape (.str name) ++ ':' :: ' ' :: text) :=
  ⟨name, _, text, rfl, quotes_keyText hescape hname, hvalue, rfl⟩

end Leaves

theorem obstacles_items {v : Value} {rest : List Value} :
    itemsObstacle? (v :: rest) = none → obstacle? v = none ∧ itemsObstacle? rest = none := by
  intro h
  rwa [itemsObstacle?, Option.orElse_eq_or, Option.or_eq_none_iff] at h

theorem obstacles_members {key : Scalar} {v : Value} {rest : Entries} :
    membersObstacle? ((key, v) :: rest) = none →
      obstacle? v = none ∧ membersObstacle? rest = none := by
  intro h
  rw [membersObstacle?, Option.orElse_eq_or, Option.orElse_eq_or, Option.or_eq_none_iff,
    Option.or_eq_none_iff] at h
  exact h.2

mutual

/-- The line of a value denotes it. -/
theorem denotes_compact :
    (v : Value) → v.isJson = true → obstacle? v = none → Denotes (.value v) (compact v)
  | .scalar s => fun hjson hfree => denotes_scalarText keepsCharacters_escapeAscii hjson hfree
  | .list items => by
      intro hjson hfree
      have hitems := denotes_compactItems items hjson hfree
      exact denotes_list blanks_nil blanks_space blanks_nil hitems
  | .map entries => by
      intro hjson hfree
      have hnamed := Entries.named_of_isJson hjson
      rw [Value.isJson, Bool.and_eq_true] at hjson
      have hmembers := denotes_compactMembers entries hjson.2 hfree
      exact denotes_map blanks_nil blanks_space blanks_nil hnamed hmembers
  | .pair _ _ | .set _ | .again _ _ => fun hjson _ => by cases hjson

/-- The compact texts of items denote them. -/
theorem denotes_compactItems :
    (items : List Value) → itemsAreJson items = true → itemsObstacle? items = none →
      List.Forall₂ IsItem items (compactItems items)
  | [] => fun _ _ => List.Forall₂.nil
  | v :: rest => by
      intro hjson hfree
      rw [itemsAreJson, Bool.and_eq_true] at hjson
      obtain ⟨hv, hrest⟩ := obstacles_items hfree
      exact List.Forall₂.cons (denotes_compact v hjson.1 hv)
        (denotes_compactItems rest hjson.2 hrest)

theorem denotes_compactMembers :
    (entries : List (Scalar × Value)) → membersAreJson entries = true →
      membersObstacle? entries = none → List.Forall₂ IsMember entries (compactMembers entries)
  | [] => fun _ _ => List.Forall₂.nil
  | (key, v) :: rest => by
      intro hjson hfree
      obtain ⟨name, rfl, hname, hv, hrest⟩ := members_of_areJson hjson
      obtain ⟨hvfree, hrestfree⟩ := obstacles_members hfree
      have hvalue := denotes_compact v hv hvfree
      exact List.Forall₂.cons (isMember_keyText keepsCharacters_escapeAscii hname hvalue)
        (denotes_compactMembers rest hrest hrestfree)

end

/-! ## The line is printable -/

/-- The printable characters of ASCII. -/
def isPrintable (c : Char) : Bool :=
  ' ' ≤ c && c ≤ '~'

/-- A text of printable characters alone. -/
def Printable (cs : List Char) : Prop :=
  ∀ c ∈ cs, isPrintable c = true

/-- A text is printable if its parts are. -/
theorem printable_append {xs ys : List Char} :
    Printable (xs ++ ys) ↔ Printable xs ∧ Printable ys :=
  List.forall_mem_append

theorem printable_cons {c : Char} {cs : List Char} :
    Printable (c :: cs) ↔ isPrintable c = true ∧ Printable cs :=
  List.forall_mem_cons

theorem printable_single {c : Char} (h : isPrintable c = true) : Printable [c] :=
  printable_cons.2 ⟨h, fun d hd => by cases hd⟩

/-- Printable texts are joined to a printable one. -/
theorem printable_joinWith {separator : List Char} {texts : List (List Char)}
    (hseparator : Printable separator) (htexts : ∀ text ∈ texts, Printable text) :
    Printable (Text.joinWith separator texts) := by
  induction texts using Text.joinWith.induct with
  | case1 =>
      intro c hc
      cases hc
  | case2 text =>
      exact htexts text List.mem_cons_self
  | case3 x y rest ih =>
      have hrest := ih fun text hmem => htexts text (List.mem_cons_of_mem x hmem)
      rw [Text.joinWith, printable_append, printable_append]
      exact ⟨⟨htexts x List.mem_cons_self, hseparator⟩, hrest⟩

theorem printable_unitEscape (n : Nat) : Printable (unitEscape n) := by
  have hdigit : ∀ m < 16, isPrintable (Text.hexDigit m) = true := by decide
  have hdigits : ∀ m, isPrintable (Text.hexDigit (m % 16)) = true :=
    fun m => hdigit _ (Nat.mod_lt m (by decide))
  intro c hc
  simp only [unitEscape, Text.hexPadded, List.nil_append, List.mem_cons, List.mem_append,
    List.not_mem_nil, or_false] at hc
  rcases hc with rfl | rfl | ((rfl | rfl) | rfl) | rfl
  · rfl
  · rfl
  all_goals
    exact hdigits _

theorem printable_shortEscape {n : Nat} {piece : List Char} :
    shortEscape? n = some piece → Printable piece := by
  intro h
  simp only [shortEscape?] at h
  split_ifs at h
  all_goals
    cases h
    exact printable_cons.2 ⟨rfl, printable_single rfl⟩

/-- Whatever the code, its escape is printable. -/
theorem printable_escapeAscii (n : Nat) : Printable (escapeAscii n) := by
  unfold escapeAscii
  cases hshort : shortEscape? n with
  | some piece =>
      exact printable_shortEscape hshort
  | none =>
      dsimp only
      split_ifs with hprintable hplane
      · -- The bound comes first, so that there are finitely many codes to try.
        have hplain : ∀ m ≤ 0x7E, 0x20 ≤ m → isPrintable (Char.ofNat m) = true := by
          decide +kernel
        rw [Bool.and_eq_true, decide_eq_true_eq, decide_eq_true_eq] at hprintable
        exact printable_single (hplain n hprintable.2 hprintable.1)
      · exact printable_unitEscape n
      · exact printable_append.2 ⟨printable_unitEscape _, printable_unitEscape _⟩

/-- A string in ASCII form is printable. -/
theorem printable_quoted (s : String) : Printable (quoted escapeAscii s) := by
  have hcodes : Printable ((Text.codes s.toList).flatMap escapeAscii) := by
    intro c hc
    obtain ⟨n, _, hn⟩ := List.mem_flatMap.1 hc
    exact printable_escapeAscii n c hn
  exact printable_cons.2 ⟨rfl, printable_append.2 ⟨hcodes, printable_single rfl⟩⟩

theorem printable_intText (i : Int) : Printable (intText i) := by
  have hdigits : Printable (Nat.toDigits 10 i.natAbs) := by
    intro c hc
    have hdigit := isDigit_of_mem_toDigits hc
    rw [isDigit, Bool.and_eq_true, decide_eq_true_eq, decide_eq_true_eq] at hdigit
    rw [isPrintable, Bool.and_eq_true, decide_eq_true_eq, decide_eq_true_eq]
    exact ⟨Char.le_trans (by decide) hdigit.1, Char.le_trans hdigit.2 (by decide)⟩
  rcases intText_cases i with ⟨_, htext⟩ | ⟨_, htext⟩
  · rw [htext]
    exact hdigits
  · rw [htext, printable_cons]
    exact ⟨rfl, hdigits⟩

theorem printable_scalarText {s : Scalar} (hjson : (Value.scalar s).isJson = true) :
    Printable (scalarText escapeAscii s) := by
  cases s with
  | null =>
      exact List.all_eq_true.1 (by decide)
  | bool b =>
      cases b <;> exact List.all_eq_true.1 (by decide)
  | int i =>
      exact printable_intText i
  | str s =>
      exact printable_quoted s
  | _ =>
      cases hjson

theorem printable_comma : Printable [',', ' '] :=
  printable_cons.2 ⟨rfl, printable_single rfl⟩

mutual

/-- The line of a value is printable ASCII. -/
theorem printable_compact : (v : Value) → v.isJson = true → Printable (compact v)
  | .scalar s => fun hjson => printable_scalarText hjson
  | .list items => by
      intro hjson
      have hitems := printable_joinWith printable_comma (printable_compactItems items hjson)
      exact printable_cons.2 ⟨rfl, printable_append.2 ⟨hitems, printable_single rfl⟩⟩
  | .map entries => by
      intro hjson
      rw [Value.isJson, Bool.and_eq_true] at hjson
      have hmembers := printable_joinWith printable_comma (printable_compactMembers entries hjson.2)
      exact printable_cons.2 ⟨rfl, printable_append.2 ⟨hmembers, printable_single rfl⟩⟩
  | .pair _ _ | .set _ | .again _ _ => fun hjson => by cases hjson

/-- The compact texts of items are printable. -/
theorem printable_compactItems :
    (items : List Value) → itemsAreJson items = true →
      ∀ text ∈ compactItems items, Printable text
  | [] => fun _ text hmem => by cases hmem
  | v :: rest => by
      intro hjson
      rw [itemsAreJson, Bool.and_eq_true] at hjson
      rw [compactItems, List.forall_mem_cons]
      exact ⟨printable_compact v hjson.1, printable_compactItems rest hjson.2⟩

theorem printable_compactMembers :
    (entries : List (Scalar × Value)) → membersAreJson entries = true →
      ∀ text ∈ compactMembers entries, Printable text
  | [] => fun _ text hmem => by cases hmem
  | (key, v) :: rest => by
      intro hjson
      obtain ⟨name, rfl, _, hv, hrest⟩ := members_of_areJson hjson
      rw [compactMembers, List.forall_mem_cons]
      refine ⟨printable_append.2 ⟨printable_quoted name, ?_⟩, printable_compactMembers rest hrest⟩
      exact printable_cons.2 ⟨rfl, printable_cons.2 ⟨rfl, printable_compact v hv⟩⟩

end

end Json
end ApiView
