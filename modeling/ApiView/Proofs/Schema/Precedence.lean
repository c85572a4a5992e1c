import Mathlib.Data.List.Basic
import ApiView.Text.Blank

/-!
# Precedence — types are read by their marks

Where a type is written without parentheses, a reader takes it for a union of intersections: bars part it
first and ampersands afterwards, outside of brackets and of literals.  This file reads types that way:

* `Place`: how many brackets are open at a character, and whether it stands in a literal;
* `partsFrom`: what lies between the marks at depth zero;
* `reading`: the operands of the intersections that a type is a union of;
* `glue`, `partsFrom_append`: where two texts meet, the last part of one and the first part of the other
  are one part;
* `reading_intersection`: of types with ampersands between them only the neighbours at each ampersand are
  intersected;
* `intersects_iff`: the whole is the intersection of the types iff none of them is a union.
-/

namespace ApiView
namespace TypeText

/-! ## Places -/

/-- Where a reader of a type is: outside of literals, inside of one, or behind a backslash in one, with
some brackets open. -/
inductive Place
  | outside (depth : Nat)
  | literal (depth : Nat) (quote : Char)
  | escape (depth : Nat) (quote : Char)
deriving DecidableEq, Repr

/-- The quotes around a literal. -/
def isQuote (c : Char) : Bool :=
  c == '"' || c == '\''

def isOpening (c : Char) : Bool :=
  c == '(' || c == '[' || c == '\x7b' || c == '<'

def isClosing (c : Char) : Bool :=
  c == ')' || c == ']' || c == '\x7d' || c == '>'

namespace Place

/-- The place behind a character. -/
def next : Place → Char → Place
  | outside depth, c =>
    if isQuote c then literal depth c
    else if isOpening c then outside (depth + 1)
    else if isClosing c then outside (depth - 1)
    else outside depth
  | literal depth quote, c =>
    if c == '\\' then escape depth quote
    else if c == quote then outside depth
    else literal depth quote
  | escape depth quote, _ => literal depth quote

/-- The place behind a text. -/
def walk (p : Place) (cs : List Char) : Place :=
  cs.foldl next p

/-- The place in front of a type. -/
abbrev start : Place :=
  outside 0

@[simp]
theorem walk_nil (p : Place) : p.walk [] = p :=
  rfl

@[simp]
theorem walk_cons (p : Place) (c : Char) (cs : List Char) : p.walk (c :: cs) = (p.next c).walk cs :=
  rfl

theorem walk_append (p : Place) (xs ys : List Char) : p.walk (xs ++ ys) = (p.walk xs).walk ys :=
  List.foldl_append

end Place

open Place

/-! ## Parts -/

/-- Two rows of parts, of which the last one on the left goes on as the first one on the right. -/
def glue {α : Type} : List (List α) → List (List α) → List (List α)
  | [], ys => ys
  | [x], [] => [x]
  | [x], y :: ys => (x ++ y) :: ys
  | x :: x' :: xs, ys => x :: glue (x' :: xs) ys

section Glue

variable {α : Type} {x : List α} {xs ys : List (List α)}

theorem glue_cons (hxs : xs ≠ []) : glue (x :: xs) ys = x :: glue xs ys := by
  cases xs with
  | nil =>
      exact absurd rfl hxs
  | cons x' xs =>
      rw [glue]

theorem glue_nil (xs : List (List α)) : glue xs [] = xs := by
  induction xs with
  | nil =>
      rfl
  | cons x xs ih =>
      cases xs with
      | nil =>
          rfl
      | cons x' xs =>
          rw [glue, ih]

/-- What is put in front of the left side is put in front of the whole. -/
theorem glue_modifyHead (c : α) (hxs : xs ≠ []) (hys : ys ≠ []) :
    glue (xs.modifyHead (c :: ·)) ys = (glue xs ys).modifyHead (c :: ·) := by
  obtain ⟨x, xs, rfl⟩ := List.exists_cons_of_ne_nil hxs
  obtain ⟨y, ys, rfl⟩ := List.exists_cons_of_ne_nil hys
  cases xs with
  | nil =>
      rfl
  | cons x' xs =>
      rfl

/-- One part is lost where two rows meet. -/
theorem length_glue (hxs : xs ≠ []) (hys : ys ≠ []) :
    (glue xs ys).length + 1 = xs.length + ys.length := by
  induction xs with
  | nil =>
      exact absurd rfl hxs
  | cons x xs ih =>
      cases xs with
      | nil =>
          obtain ⟨y, ys, rfl⟩ := List.exists_cons_of_ne_nil hys
          simp only [glue, List.length_cons, List.length_nil]
          omega
      | cons x' xs =>
          have hrest := ih (List.cons_ne_nil x' xs)
          rw [glue, List.length_cons, List.length_cons]
          omega

end Glue

/-- The parts of a text between the marks that stand outside of all brackets and literals, read from a
place on. -/
def partsFrom (mark : Char) (p : Place) : List Char → List (List Char)
  | [] => [[]]
  | c :: rest =>
    if p = start ∧ c = mark then [] :: partsFrom mark p rest
    else (partsFrom mark (p.next c) rest).modifyHead (c :: ·)

theorem partsFrom_ne_nil (mark : Char) (p : Place) (cs : List Char) : partsFrom mark p cs ≠ [] := by
  induction cs generalizing p with
  | nil =>
      exact List.cons_ne_nil _ _
  | cons c rest ih =>
      rw [partsFrom]
      split
      · exact List.cons_ne_nil _ _
      · obtain ⟨head, tail, hparts⟩ := List.exists_cons_of_ne_nil (ih (p.next c))
        rw [hparts]
        exact List.cons_ne_nil _ _

/-- Where two texts meet, the last part of one and the first part of the other are one part.  The mark is
no quote and no bracket. -/
theorem partsFrom_append {mark : Char} (hmark : start.next mark = start) (p : Place)
    (xs ys : List Char) :
    partsFrom mark p (xs ++ ys) = glue (partsFrom mark p xs) (partsFrom mark (p.walk xs) ys) := by
  -- The place goes along the left text, and a mark in it leaves the place as it was.
  induction xs generalizing p with
  | nil =>
      obtain ⟨head, tail, hparts⟩ := List.exists_cons_of_ne_nil (partsFrom_ne_nil mark p ys)
      rw [List.nil_append, walk_nil, hparts]
      rfl
  | cons c rest ih =>
      have hrest := partsFrom_ne_nil mark (p.next c) rest
      have hbehind := partsFrom_ne_nil mark ((p.next c).walk rest) ys
      rw [List.cons_append, partsFrom, partsFrom, walk_cons]
      split
      · rename_i hcut
        obtain ⟨rfl, rfl⟩ := hcut
        rw [hmark] at hrest ⊢
        rw [ih, glue_cons hrest]
      · rw [ih, glue_modifyHead c hrest hbehind]

/-- The parts of a text that closes what it opens do so, too. -/
theorem walk_of_partsFrom {mark : Char} (hmark : start.next mark = start) {p : Place}
    {cs head : List Char} {tail : List (List Char)} (hclosed : p.walk cs = start) :
    partsFrom mark p cs = head :: tail →
      p.walk head = start ∧ ∀ part ∈ tail, start.walk part = start := by
  intro h
  -- A mark counts at the start only, so every part but the first begins there.
  induction cs generalizing p head tail with
  | nil =>
      cases h
      exact ⟨hclosed, List.forall_mem_nil _⟩
  | cons c rest ih =>
      rw [walk_cons] at hclosed
      rw [partsFrom] at h
      obtain ⟨first, others, hparts⟩ :=
        List.exists_cons_of_ne_nil (partsFrom_ne_nil mark (p.next c) rest)
      obtain ⟨hfirst, hothers⟩ := ih hclosed hparts
      split at h
      · rename_i hcut
        obtain ⟨rfl, rfl⟩ := hcut
        rw [hmark] at hparts hfirst
        rw [hparts] at h
        cases h
        exact ⟨rfl, List.forall_mem_cons.2 ⟨hfirst, hothers⟩⟩
      · rw [hparts] at h
        cases h
        exact ⟨hfirst, hothers⟩

/-! ## Readings -/

/-- The operands of an intersection. -/
def operands (cs : List Char) : List String :=
  (partsFrom '&' start cs).map fun part => String.ofList (Text.trim part)

/-- A type as a union of intersections: the operands of each of them. -/
def reading (type : String) : List (List String) :=
  (partsFrom '|' start type.toList).map operands

theorem reading_ne_nil (type : String) : reading type ≠ [] := by
  intro h
  exact partsFrom_ne_nil '|' start type.toList (List.map_eq_nil_iff.1 h)

/-- A blank in front of a part does not count. -/
theorem trim_blank_cons (cs : List Char) : Text.trim (' ' :: cs) = Text.trim cs := by
  have hblank : Text.isBlank ' ' = true := by decide
  rw [Text.trim, Text.trimLeft, List.dropWhile_cons_of_pos hblank]
  rfl

/-- A blank behind a part does not count. -/
theorem trim_concat_blank (cs : List Char) : Text.trim (cs ++ [' ']) = Text.trim cs := by
  have hblank : Text.isBlank ' ' = true := by decide
  have hright : ∀ ds, Text.trimRight (ds ++ [' ']) = Text.trimRight ds := by
    intro ds
    rw [Text.trimRight, List.reverse_append, List.reverse_singleton, List.singleton_append,
      List.dropWhile_cons_of_pos hblank]
    rfl
  rw [Text.trim, Text.trimLeft, List.dropWhile_append]
  split
  · rename_i hempty
    rw [List.isEmpty_iff] at hempty
    rw [List.dropWhile_cons_of_pos hblank, Text.trim, Text.trimLeft, hempty]
    rfl
  · exact hright _

/-- An ampersand between two parts parts their operands, and takes the blanks around it away. -/
theorem map_glue_ampersand {xs ys : List (List Char)} (hxs : xs ≠ []) :
    (glue xs ([' '] :: ys)).map (fun part => String.ofList (Text.trim part)) =
      xs.map (fun part => String.ofList (Text.trim part)) ++
        ys.map fun part => String.ofList (Text.trim part) := by
  induction xs with
  | nil =>
      exact absurd rfl hxs
  | cons x xs ih =>
      cases xs with
      | nil =>
          simp [glue, trim_concat_blank]
      | cons x' xs =>
          rw [glue, List.map_cons, ih (List.cons_ne_nil x' xs), List.map_cons (a := x),
            List.cons_append]

/-- Behind a text that closes what it opens, an ampersand begins new operands. -/
theorem operands_append {xs : List Char} (hclosed : start.walk xs = start) (ys : List Char) :
    operands (xs ++ ' ' :: '&' :: ' ' :: ys) = operands xs ++ operands ys := by
  obtain ⟨head, tail, hparts⟩ := List.exists_cons_of_ne_nil (partsFrom_ne_nil '&' start ys)
  have hbehind : partsFrom '&' start (' ' :: '&' :: ' ' :: ys) =
      [' '] :: (' ' :: head) :: tail := by
    have hblank : start.next ' ' = start := by decide
    rw [partsFrom, if_neg (by decide), hblank, partsFrom, if_pos ⟨rfl, rfl⟩, partsFrom,
      if_neg (by decide), hblank, hparts]
    rfl
  unfold operands
  rw [partsFrom_append (by decide), hclosed, hbehind,
    map_glue_ampersand (partsFrom_ne_nil '&' start xs), hparts]
  simp only [List.map_cons, trim_blank_cons]

/-- Operands are glued where an intersection goes on. -/
theorem map_operands_glue {xs ys : List (List Char)} (hxs : xs ≠ []) (hys : ys ≠ [])
    (hclosed : ∀ x ∈ xs, start.walk x = start) :
    (glue xs (glue [" & ".toList] ys)).map operands = glue (xs.map operands) (ys.map operands) := by
  obtain ⟨y, ys, rfl⟩ := List.exists_cons_of_ne_nil hys
  induction xs with
  | nil =>
      exact absurd rfl hxs
  | cons x xs ih =>
      obtain ⟨hx, hrest⟩ := List.forall_mem_cons.1 hclosed
      cases xs with
      | nil =>
          have hmeet := operands_append hx y
          simp only [glue, List.map_cons, List.map_nil]
          exact congrArg (· :: ys.map operands) hmeet
      | cons x' xs =>
          calc
            (glue (x :: x' :: xs) (glue [" & ".toList] (y :: ys))).map operands
                = operands x :: (glue (x' :: xs) (glue [" & ".toList] (y :: ys))).map operands := by
                  rw [glue_cons (List.cons_ne_nil x' xs), List.map_cons]
            _ = operands x :: glue ((x' :: xs).map operands) ((y :: ys).map operands) := by
                  rw [ih (List.cons_ne_nil x' xs) hrest]
            _ = glue ((x :: x' :: xs).map operands) ((y :: ys).map operands) := rfl

/-- Behind a type that closes what it opens, an ampersand glues the last intersection of the type to the
first one behind it. -/
theorem reading_append {type : String} (hclosed : start.walk type.toList = start) (more : String) :
    reading (type ++ " & " ++ more) = glue (reading type) (reading more) := by
  have hampersand : start.walk " & ".toList = start := by decide
  have hparts : partsFrom '|' start " & ".toList = [" & ".toList] := by decide
  have hne := partsFrom_ne_nil '|' start type.toList
  -- The last part of the type is closed, so the ampersand behind it parts operands.
  have hwalk : ∀ part ∈ partsFrom '|' start type.toList, start.walk part = start := by
    obtain ⟨head, tail, hsplit⟩ := List.exists_cons_of_ne_nil hne
    rw [hsplit]
    exact List.forall_mem_cons.2 (walk_of_partsFrom (by decide) hclosed hsplit)
  unfold reading
  rw [String.append_assoc, String.toList_append, String.toList_append, partsFrom_append (by decide),
    hclosed, partsFrom_append (by decide), hampersand, hparts]
  exact map_operands_glue hne (partsFrom_ne_nil '|' start more.toList) hwalk

/-- Of types with ampersands between them only the neighbours at each ampersand are intersected. -/
theorem reading_intersection {types : List String}
    (hclosed : ∀ type ∈ types, start.walk type.toList = start) (hne : types ≠ []) :
    reading (" & ".intercalate types) = (types.map reading).foldr glue [] := by
  induction types with
  | nil =>
      exact absurd rfl hne
  | cons type rest ih =>
      obtain ⟨htype, hrest⟩ := List.forall_mem_cons.1 hclosed
      cases rest with
      | nil =>
          rw [String.intercalate_singleton, List.map_singleton, List.foldr_cons, List.foldr_nil,
            glue_nil]
      | cons next rest =>
          rw [String.intercalate_cons_cons, reading_append htype, ih hrest (List.cons_ne_nil next rest),
            List.map_cons, List.foldr_cons]
          rfl

/-! ## Intersections -/

/-- A type reads as the intersection of some types: it is one intersection, whose operands are those of
the types, in order. -/
def Intersects (whole : String) (types : List String) : Prop :=
  reading whole = [types.flatMap fun type => (reading type).flatten]

/-- Whether a type reads as a union of several intersections. -/
def ReadsAsUnion (type : String) : Prop :=
  1 < (reading type).length

section Rows

variable {α : Type} {rows : List (List (List α))}

theorem foldr_glue_ne_nil (hrows : rows ≠ []) (hfull : ∀ row ∈ rows, row ≠ []) :
    rows.foldr glue [] ≠ [] := by
  obtain ⟨row, rest, rfl⟩ := List.exists_cons_of_ne_nil hrows
  have hrow := hfull row List.mem_cons_self
  rw [List.foldr_cons]
  intro h
  by_cases hrest : rest.foldr glue [] = []
  · rw [hrest, glue_nil] at h
    exact hrow h
  · have hlength := length_glue hrow hrest
    rw [h, List.length_nil] at hlength
    have hpositive := List.length_pos_iff.2 hrow
    have hpositive' := List.length_pos_iff.2 hrest
    omega

/-- Rows that are glued together are one part only if each of them is. -/
theorem length_foldr_glue_eq_one (hfull : ∀ row ∈ rows, row ≠ []) :
    (rows.foldr glue []).length = 1 → ∀ row ∈ rows, row.length = 1 := by
  intro h
  induction rows with
  | nil =>
      exact List.forall_mem_nil _
  | cons row rest ih =>
      obtain ⟨hrow, hfull'⟩ := List.forall_mem_cons.1 hfull
      rw [List.foldr_cons] at h
      cases rest with
      | nil =>
          rw [List.foldr_nil, glue_nil] at h
          exact List.forall_mem_cons.2 ⟨h, List.forall_mem_nil _⟩
      | cons next rest =>
          have hrest := foldr_glue_ne_nil (List.cons_ne_nil next rest) hfull'
          have hlength := length_glue hrow hrest
          have hpositive := List.length_pos_iff.2 hrow
          have hpositive' := List.length_pos_iff.2 hrest
          exact List.forall_mem_cons.2 ⟨by omega, ih hfull' (by omega)⟩

/-- Rows of one part each are glued together to one part. -/
theorem foldr_glue_of_single (hrows : rows ≠ []) (hsingle : ∀ row ∈ rows, row.length = 1) :
    rows.foldr glue [] = [rows.flatMap List.flatten] := by
  induction rows with
  | nil =>
      exact absurd rfl hrows
  | cons row rest ih =>
      obtain ⟨hrow, hrest⟩ := List.forall_mem_cons.1 hsingle
      obtain ⟨part, rfl⟩ := List.length_eq_one_iff.1 hrow
      rw [List.foldr_cons]
      cases rest with
      | nil =>
          simp [glue]
      | cons next rest =>
          rw [ih (List.cons_ne_nil next rest) hrest]
          simp [glue]

end Rows

/-- Of types that close what they open, the whole is the intersection iff none of them is a union. -/
theorem intersects_iff {types : List String}
    (hclosed : ∀ type ∈ types, start.walk type.toList = start) (hne : types ≠ []) :
    Intersects (" & ".intercalate types) types ↔ ∀ type ∈ types, ¬ ReadsAsUnion type := by
  have hrows : types.map reading ≠ [] := by simpa using hne
  have hfull : ∀ row ∈ types.map reading, row ≠ [] := by
    intro row hrow
    obtain ⟨type, -, rfl⟩ := List.mem_map.1 hrow
    exact reading_ne_nil type
  -- A type reads as a union if it is read as more than one alternative.
  have hsingle : (∀ row ∈ types.map reading, row.length = 1) ↔
      ∀ type ∈ types, ¬ ReadsAsUnion type := by
    rw [List.forall_mem_map]
    refine forall₂_congr fun type _ => ?_
    have hpositive := List.length_pos_iff.2 (reading_ne_nil type)
    unfold ReadsAsUnion
    omega
  have hflat : types.flatMap (fun type => (reading type).flatten) =
      (types.map reading).flatMap List.flatten := by
    rw [List.flatMap_map]
  unfold Intersects
  rw [reading_intersection hclosed hne, hflat, ← hsingle]
  constructor
  · intro h
    -- Rows of alternatives are glued at their ends, so a single one is left only if each has one.
    exact length_foldr_glue_eq_one hfull (by rw [h]; rfl)
  · exact foldr_glue_of_single hrows

end TypeText
end ApiView
