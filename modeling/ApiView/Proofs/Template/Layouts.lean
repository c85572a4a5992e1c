import ApiView.Proofs.Json.Numerals
import ApiView.Proofs.Outcomes
import ApiView.Proofs.Text.Classes
import ApiView.Template.Render

/-!
# Layouts — templates that fill in the texts of a method

The simplest template for methods is text with a few places in it, each for a text of the method.  It is
written with tags in these places and is read by looking for tags, so it is read as what it was written for
as long as the text in between has no braces:

* `Slot`, `Plain`, `Layout`: the places, the text in between, and both in turn;
* `Layout.source`, `Layout.filled`: a layout as a template, and with the texts of a method in its places;
* `scanTag_blank`, `scanTag_token`: what reading a tag makes of a blank and of a word;
* `Layout.scan_source`, `Layout.ofSource_source`: the pieces and the nodes of the template;
* `Layout.renderNodes_nodes`: the nodes in a context that binds the method.
-/

namespace ApiView
namespace Template

/-! ## Layouts -/

/-- A text of a method that a layout has a place for. -/
inductive Slot
  | name
  | verb
  | path
deriving DecidableEq, Repr

namespace Slot

/-- The member of the method's form that holds the text. -/
def word : Slot → String
  | name => "methodName"
  | verb => "method"
  | path => "path"

/-- The text. -/
def text (m : Method) : Slot → String
  | name => m.name
  | verb => m.verb.word
  | path => m.path

/-- The tag that shows the text. -/
def tag (slot : Slot) : List Char :=
  ("\x7b\x7b method." ++ slot.word ++ " \x7d\x7d").toList

/-- The words of the tag. -/
def tokens (slot : Slot) : List Token :=
  [.name "method", .mark '.', .name slot.word]

/-- What the words say. -/
def expr (slot : Slot) : Expr :=
  .attribute (.name "method") slot.word

end Slot

/-- Whether a character is neither a brace nor a carriage return. -/
def isPlain (c : Char) : Bool :=
  c != '\x7b' && c != '\x7d' && c != '\r'

/-- A text without braces and carriage returns. -/
structure Plain where
  chars : List Char
  plain : chars.all isPlain = true

/-- Plain text with places in it: a text at the end, or a text, a place and a layout behind them. -/
inductive Layout
  | last (text : Plain)
  | next (text : Plain) (slot : Slot) (rest : Layout)

namespace Layout

/-- A layout as a template. -/
def source : Layout → List Char
  | last text => text.chars
  | next text slot rest => text.chars ++ (slot.tag ++ rest.source)

/-- A layout with the texts of a method in its places. -/
def filled (m : Method) : Layout → List Char
  | last text => text.chars
  | next text slot rest => text.chars ++ ((slot.text m).toList ++ rest.filled m)

/-- The pieces of a layout. -/
def pieces : Layout → List Piece
  | last text => [.data text.chars]
  | next text slot rest => .data text.chars :: .output slot.tokens :: rest.pieces

/-- The nodes of a layout. -/
def nodes : Layout → List Node
  | last text => [.data text.chars]
  | next text slot rest => .data text.chars :: .output slot.expr :: rest.nodes

end Layout

/-! ## Text -/

theorem Plain.ne (text : Plain) : ∀ c ∈ text.chars, c ≠ '\x7b' ∧ c ≠ '\r' := by
  intro c hc
  have hplain := List.all_eq_true.1 text.plain c hc
  simp only [isPlain, Bool.and_eq_true, bne_iff_ne] at hplain
  exact ⟨hplain.1.1, hplain.2⟩

/-- Without an opening brace a text has no tag. -/
theorem untilTag_of_forall {cs : List Char} (h : ∀ c ∈ cs, c ≠ '\x7b') : untilTag cs = (cs, none) := by
  induction cs with
  | nil =>
      rfl
  | cons c rest ih =>
      obtain ⟨hc, hrest⟩ := List.forall_mem_cons.1 h
      simp [untilTag, hc, ih hrest]

/-- The text up to the first tag is all that stands in front of an opening brace. -/
theorem untilTag_append {cs : List Char} (h : ∀ c ∈ cs, c ≠ '\x7b') (inside : List Char) :
    untilTag (cs ++ '\x7b' :: '\x7b' :: inside) = (cs, some (.output, inside)) := by
  induction cs with
  | nil =>
      rfl
  | cons c rest ih =>
      obtain ⟨hc, hrest⟩ := List.forall_mem_cons.1 h
      simp [untilTag, hc, ih hrest]

/-! ## Words of a tag -/

/-- Whether a tag reads a text as a name: characters of words, the first of which is no digit. -/
def isTagName : List Char → Bool
  | [] => false
  | c :: rest => !Json.isDigit c && !Text.isDigit c && (c :: rest).all Text.isWordChar

section Tags

variable {kind : Kind} {afterPoint : Bool} {c : Char} {word rest left : List Char} {token : Token}

/-- The name at the start of a text ends in front of what may not stand in one. -/
theorem next?_name (hname : isTagName word = true)
    (hleft : ∀ d ∈ left.head?, Text.isWordChar d = false) :
    Token.next? afterPoint (word ++ left) = some (.name (String.ofList word), left) := by
  cases word with
  | nil =>
      cases hname
  | cons c rest =>
      simp only [isTagName, Bool.and_eq_true, Bool.not_eq_true'] at hname
      obtain ⟨⟨hnumber, hdigit⟩, hchars⟩ := hname
      have hchars' := List.all_eq_true.1 hchars
      have hc : Text.isWordChar c = true := hchars' c List.mem_cons_self
      have hspan : (c :: rest ++ left).span Text.isWordChar = (c :: rest, left) :=
        Json.span_append hchars' hleft
      rw [List.cons_append] at hspan ⊢
      rw [Token.next?]
      · simp only [hnumber, hc, hdigit, hspan]
        rfl
      · -- A comparison does not begin with a character of a word.
        rintro rest' rfl
        exact absurd hc (by decide)

/-- The end of a tag that shows a value begins with a minus sign or a brace. -/
theorem closing?_output_eq_none (hminus : c ≠ '-') (hbrace : c ≠ '\x7d') :
    closing? .output (c :: rest) = none := by
  unfold closing?
  split <;> simp_all

/-- A blank parts words. -/
theorem scanTag_blank (hc : Text.isBlank c = true) (hopen : closing? kind (c :: rest) = none) :
    scanTag kind [] afterPoint (c :: rest) = scanTag kind [] false rest := by
  rw [scanTag]
  simp [hopen, hc]

/-- A word that is no bracket is put in front of the words behind it. -/
theorem scanTag_token (hc : Text.isBlank c = false) (hopen : closing? kind (c :: rest) = none)
    (hnext : Token.next? afterPoint (c :: rest) = some (token, left))
    (hshorter : left.length < (c :: rest).length) (hbrackets : bracketsAfter [] token = .ok []) :
    scanTag kind [] afterPoint (c :: rest) =
      (scanTag kind [] (token == .mark '.') left).map fun (tokens, found) =>
        (token :: tokens, found) := by
  rw [scanTag]
  simp only [List.isEmpty_nil, if_true, hopen, hc, hnext, hshorter, hbrackets]
  rw [if_neg Bool.false_ne_true, dif_pos trivial, ok_bind]
  cases scanTag kind [] (token == .mark '.') left <;> rfl

/-- A name is put in front of the words behind it. -/
theorem scanTag_name (hname : isTagName word = true)
    (hleft : ∀ d ∈ left.head?, Text.isWordChar d = false) :
    scanTag .output [] afterPoint (word ++ left) =
      (scanTag .output [] false left).map fun (tokens, found) =>
        (.name (String.ofList word) :: tokens, found) := by
  have hnext : Token.next? afterPoint (word ++ left) = some (.name (String.ofList word), left) :=
    next?_name hname hleft
  cases word with
  | nil =>
      cases hname
  | cons c rest =>
      simp only [isTagName, Bool.and_eq_true] at hname
      have hc : Text.isWordChar c = true := List.all_eq_true.1 hname.2 c List.mem_cons_self
      have hopen : closing? .output (c :: (rest ++ left)) = none := by
        apply closing?_output_eq_none
        · rintro rfl
          exact absurd hc (by decide)
        · rintro rfl
          exact absurd hc (by decide)
      have hshorter : left.length < (c :: (rest ++ left)).length := by
        rw [List.length_cons, List.length_append]
        omega
      exact scanTag_token (Text.not_isBlank_of_isWordChar hc) hopen hnext hshorter rfl

/-- The point in front of a member. -/
theorem scanTag_point (rest : List Char) :
    scanTag .output [] false ('.' :: rest) =
      (scanTag .output [] true rest).map fun (tokens, found) => (.mark '.' :: tokens, found) :=
  scanTag_token (by decide) rfl rfl (Nat.lt_succ_self _) rfl

theorem scanTag_end (afterPoint : Bool) (rest : List Char) :
    scanTag .output [] afterPoint ('\x7d' :: '\x7d' :: rest) = .ok ([], rest, false) := by
  rw [scanTag]
  rfl

end Tags

/-! ## Pieces -/

/-- The tag of a place, its words set apart. -/
theorem Slot.tag_eq (slot : Slot) :
    slot.tag = '\x7b' :: '\x7b' ::
      ' ' :: ("method".toList ++ '.' :: (slot.word.toList ++ [' ', '\x7d', '\x7d'])) := by
  cases slot <;> decide

theorem Slot.isTagName_word (slot : Slot) : isTagName slot.word.toList = true := by
  cases slot <;> decide

/-- The words of the tag of a place. -/
theorem Slot.scanTag_inside (slot : Slot) (rest : List Char) :
    scanTag .output [] false
        (' ' :: ("method".toList ++ '.' :: (slot.word.toList ++ ' ' :: '\x7d' :: '\x7d' :: rest))) =
      .ok (slot.tokens, rest, false) := by
  -- Behind the point a number would be read in another way, but not a name.
  have hmember : scanTag .output [] true (slot.word.toList ++ ' ' :: '\x7d' :: '\x7d' :: rest) =
      .ok ([.name slot.word], rest, false) := by
    rw [scanTag_name slot.isTagName_word (by simp; decide), scanTag_blank (by decide) rfl, scanTag_end,
      String.ofList_toList]
    rfl
  rw [scanTag_blank (by decide) rfl, scanTag_name (by decide) (by simp; decide), scanTag_point, hmember]
  rfl

namespace Layout

/-- A layout is read as its pieces, wherever on a line it begins. -/
theorem scanFrom_source (layout : Layout) (lineStart : Bool) :
    scanFrom lineStart layout.source = .ok layout.pieces := by
  induction layout generalizing lineStart with
  | last text =>
      have hopen : untilTag text.chars = (text.chars, none) :=
        untilTag_of_forall fun c hc => (text.ne c hc).1
      rw [scanFrom, source, hopen]
      rfl
  | next text slot rest ih =>
      -- What is read is the text, the opening braces, and then all that stands behind these.
      generalize hinside : ' ' :: ("method".toList ++ '.' :: (slot.word.toList ++ ' ' :: '\x7d' ::
        '\x7d' :: rest.source)) = inside
      have hsource : (next text slot rest).source = text.chars ++ '\x7b' :: '\x7b' :: inside := by
        simp only [source, slot.tag_eq, ← hinside, List.append_assoc, List.cons_append, List.nil_append]
      have hopen : untilTag (next text slot rest).source = (text.chars, some (.output, inside)) := by
        rw [hsource]
        exact untilTag_append (fun c hc => (text.ne c hc).1) inside
      have hmargin : takeMargin inside = (.usual, inside) := by
        rw [← hinside]
        rfl
      have htag : scanTag .output [] false inside = .ok (slot.tokens, rest.source, false) := by
        rw [← hinside]
        exact slot.scanTag_inside rest.source
      -- Reading goes on behind the tag because that is less than before it.
      have hshorter : rest.source.length < (next text slot rest).source.length := by
        rw [source, List.length_append, List.length_append, slot.tag_eq, List.length_cons]
        omega
      rw [scanFrom, hopen]
      simp only [hmargin, scanPiece, htag, ok_bind, pure_bind, if_pos hshorter, ih]
      rfl

theorem notMem_source (layout : Layout) : '\r' ∉ layout.source := by
  induction layout with
  | last text =>
      exact fun hmem => (text.ne _ hmem).2 rfl
  | next text slot rest ih =>
      have htag : '\r' ∉ slot.tag := by cases slot <;> decide
      have htext : '\r' ∉ text.chars := fun hmem => (text.ne _ hmem).2 rfl
      simp [source, htext, htag, ih]

/-- The source of a layout is scanned into its pieces. -/
theorem scan_source (layout : Layout) : Piece.scan layout.source = .ok layout.pieces := by
  rw [Piece.scan, Text.unifyNewlines_eq_self _ layout.notMem_source]
  exact layout.scanFrom_source true

end Layout

/-! ## Nodes -/

theorem Slot.ofTokens_tokens (slot : Slot) : Expr.ofTokens slot.tokens = .ok slot.expr := by
  cases slot <;> rfl

namespace Layout

/-- The pieces of a layout become its nodes, after those that are there. -/
theorem nodesAfter_pieces (layout : Layout) (done : List Node) :
    nodesAfter [] done layout.pieces = .ok (done ++ layout.nodes) := by
  -- No statement is open, so each piece adds one node to those that are there.
  induction layout generalizing done with
  | last text =>
      rfl
  | next text slot rest ih =>
      rw [pieces, nodesAfter, nodesAfter, slot.ofTokens_tokens, ok_bind, ih]
      simp [nodes]

/-- A layout is read as its nodes. -/
theorem ofSource_source (layout : Layout) :
    Node.ofSource (String.ofList layout.source) = .ok layout.nodes := by
  rw [Node.ofSource, String.toList_ofList, layout.scan_source, ok_bind]
  exact layout.nodesAfter_pieces []

end Layout

/-! ## Rendering -/

section Rendering

variable {context : Context} {m : Method}

theorem Slot.member?_form (m : Method) (slot : Slot) :
    m.form.member? slot.word = some (.str (slot.text m)) := by
  cases slot <;> rfl

/-- The text that a place shows where the method is bound. -/
theorem Slot.value_expr (hmethod : context.lookup "method" = some m.form) (slot : Slot) :
    slot.expr.value context = .ok (.str (slot.text m)) := by
  have hname : (Expr.name "method").meaning context = .ok (.value m.form) := by
    rw [Expr.meaning, hmethod]
    rfl
  rw [Expr.value, expr, Expr.meaning, hname]
  simp only [ok_bind, Meaning.get, memberOf, slot.member?_form]
  rfl

/-- A text is shown as it is, in front of what is shown behind it. -/
theorem renderNodes_data (includes : Context → String → Except Failure (List Char))
    (text : List Char) (rest : List Node) :
    renderNodes includes context (.data text :: rest) =
      (renderNodes includes context rest).map (text ++ ·) := by
  rw [renderNodes, renderNode]
  cases renderNodes includes context rest <;> rfl

/-- A place is shown as the text of the method. -/
theorem renderNodes_slot (includes : Context → String → Except Failure (List Char))
    (hmethod : context.lookup "method" = some m.form) (slot : Slot) (rest : List Node) :
    renderNodes includes context (.output slot.expr :: rest) =
      (renderNodes includes context rest).map ((slot.text m).toList ++ ·) := by
  have hshown : (Value.str (slot.text m)).displayed = .ok (slot.text m) := rfl
  rw [renderNodes, renderNode, slot.value_expr hmethod, ok_bind, hshown]
  cases renderNodes includes context rest <;> rfl

/-- The nodes of a layout show it filled in, whatever templates there are to be included. -/
theorem Layout.renderNodes_nodes (includes : Context → String → Except Failure (List Char))
    (hmethod : context.lookup "method" = some m.form) (layout : Layout) :
    renderNodes includes context layout.nodes = .ok (layout.filled m) := by
  induction layout with
  | last text =>
      rw [nodes, renderNodes_data, renderNodes, filled]
      simp [pure, Except.pure, Except.map]
  | next text slot rest ih =>
      rw [nodes, renderNodes_data, renderNodes_slot includes hmethod, ih]
      rfl

end Rendering

end Template
end ApiView
