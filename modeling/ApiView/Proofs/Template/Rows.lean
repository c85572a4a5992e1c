import ApiView.Build.View
import ApiView.Proofs.Template.Layouts

/-!
# Rows — the methods of a view, one behind the other

The smallest template for a view loops over its methods and includes the template for methods for each of
them.  Every tag of it stands on a line of its own, and none of these lines is left in the text:

* `rowTemplate`, `scan_rowTemplate`, `ofSource_rowTemplate`: the template, its pieces and its nodes;
* `renderNode_loop`: a loop shows what its body shows of each item;
* `renderTemplate_layout`, `renderTemplate_rows`: the texts of both templates;
* `renderView_rows`: the text of a view is the layout filled in for each of its methods;
* `undecodableDocument_unrendered`: a view that no template is handed.
-/

namespace ApiView
namespace Template

/-! ## The template -/

/-- A loop over the methods that includes the template for methods. -/
def rowTemplate : String :=
  "\x7b% for method in methods %\x7d\n\x7b% include 'method' %\x7d\n\x7b% endfor %\x7d\n"

/-- What the loop repeats. -/
def rowBody : List Node :=
  [.data [], .inclusion methodName, .data []]

/-- The end of a line behind a tag goes with the tag, so only empty texts are left between the tags. -/
theorem scan_rowTemplate :
    Piece.scan rowTemplate.toList = .ok
      [.data [], .statement [.name "for", .name "method", .name "in", .name "methods"],
       .data [], .statement [.name "include", .text "method"],
       .data [], .statement [.name "endfor"], .data []] := by
  decide +kernel

theorem ofSource_rowTemplate :
    Node.ofSource rowTemplate =
      .ok [.data [], .loop "method" (.name "methods") rowBody [], .data []] := by
  rw [Node.ofSource, scan_rowTemplate]
  rfl

theorem anyMentions_rowBody : anyMentions "loop" rowBody = false := by
  decide

/-- A node between empty texts shows what it shows alone. -/
theorem renderNodes_between (includes : Context → String → Except Failure (List Char))
    (context : Context) (n : Node) :
    renderNodes includes context [.data [], n, .data []] = renderNode includes context n := by
  rw [renderNodes_data, renderNodes, renderNodes_data, renderNodes]
  cases renderNode includes context n with
  | error reason =>
      rfl
  | ok text =>
      simp [Except.map, bind, Except.bind, pure, Except.pure]

/-! ## Loops -/

section Loops

variable {α : Type} {context : Context} {includes : Context → String → Except Failure (List Char)}
  {source target : String} {body : List Node} {form : α → Value} {shown : α → List Char} {xs : List α}

/-- Steps over a numbered row that have a result for each item, whatever its number. -/
theorem mapM_zipIdx_eq_ok {f : Value × Nat → Except Failure (List Char)}
    (h : ∀ x ∈ xs, ∀ i, f (form x, i) = .ok (shown x)) (first : Nat) :
    ((xs.map form).zipIdx first).mapM f = .ok (xs.map shown) := by
  induction xs generalizing first with
  | nil =>
      rfl
  | cons x rest ih =>
      obtain ⟨hx, hrest⟩ := List.forall_mem_cons.1 h
      rw [List.map_cons, List.zipIdx_cons, List.mapM_cons, hx, ok_bind, ih hrest]
      rfl

/-- A loop shows what its body shows of each item, one behind the other. -/
theorem renderNode_loop (hsource : context.lookup source = some (.list (xs.map form)))
    (hbody : ∀ x ∈ xs, ∀ size position,
      renderNodes includes
        (loopContext target (anyMentions "loop" body) size position (form x) context) body =
          .ok (shown x)) :
    renderNode includes context (.loop target (.name source) body []) =
      .ok (xs.map shown).flatten := by
  have hitems : (Expr.name source).value context = .ok (.list (xs.map form)) := by
    rw [Expr.value, Expr.meaning, hsource]
    rfl
  have hiterate : (Value.list (xs.map form)).iterate = .ok (xs.map form) := rfl
  rw [renderNode, hitems, ok_bind, hiterate, ok_bind]
  cases xs with
  | nil =>
      -- The nodes for an empty row are shown instead, and there are none.
      rfl
  | cons x rest =>
      have hitem : ∀ y ∈ x :: rest, ∀ i,
          renderNodes includes (loopContext target (anyMentions "loop" body)
            ((x :: rest).map form).length i (form y) context) body = .ok (shown y) :=
        fun y hy i => hbody y hy _ i
      rw [if_neg (by simp), mapM_zipIdx_eq_ok hitem 0, ok_bind]
      rfl

end Loops

/-! ## Templates -/

section Templates

variable {templates : Templates} {context : Context} {layout : Layout} {depth : Nat}

/-- The template for methods shows the layout filled in, where a method is bound. -/
theorem renderTemplate_layout {m : Method}
    (hlayout : templates.lookup methodName = some (String.ofList layout.source))
    (hmethod : context.lookup "method" = some m.form) :
    renderTemplate templates (depth + 1) context methodName = .ok (layout.filled m) := by
  rw [renderTemplate, hlayout]
  simp only [layout.ofSource_source]
  exact layout.renderNodes_nodes _ hmethod

/-- What the loop repeats shows the layout filled in for the method at hand. -/
theorem renderNodes_rowBody {m : Method} (size position : Nat)
    (hlayout : templates.lookup methodName = some (String.ofList layout.source)) :
    renderNodes (renderTemplate templates (depth + 1))
        (loopContext "method" (anyMentions "loop" rowBody) size position m.form context) rowBody =
      .ok (layout.filled m) := by
  -- The body does not ask for the place in the row, so the method is the first name that is bound.
  have hmethod : (loopContext "method" (anyMentions "loop" rowBody) size position m.form
      context).lookup "method" = some m.form := by
    rw [anyMentions_rowBody]
    rfl
  calc
    _ = renderNode (renderTemplate templates (depth + 1)) _ (.inclusion methodName) :=
      renderNodes_between _ _ _
    _ = renderTemplate templates (depth + 1) _ methodName := by rw [renderNode]
    _ = .ok (layout.filled m) := renderTemplate_layout hlayout hmethod

/-- The template for a view shows the layout filled in for each of the methods, and nothing else. -/
theorem renderTemplate_rows {methods : List Method}
    (hrows : templates.lookup className = some rowTemplate)
    (hlayout : templates.lookup methodName = some (String.ofList layout.source))
    (hmethods : context.lookup "methods" = some (.list (methods.map Method.form))) :
    renderTemplate templates (depth + 2) context className =
      .ok (methods.map fun m => layout.filled m).flatten := by
  have hloop : renderNode (renderTemplate templates (depth + 1)) context
      (.loop "method" (.name "methods") rowBody []) =
        .ok (methods.map fun m => layout.filled m).flatten :=
    renderNode_loop hmethods fun m _ size position => renderNodes_rowBody size position hlayout
  rw [renderTemplate, hrows]
  simp only [ofSource_rowTemplate]
  rw [renderNodes_between, hloop]

end Templates

/-! ## Views -/

theorem lookup_contextOf_methods (v : View) :
    (contextOf v.form []).lookup "methods" = some (.list (v.methods.map Method.form)) :=
  rfl

/-- The text of a view is the layout filled in for each of its methods, in their order: the tags leave
no lines, and the texts of the methods are neither changed nor read again.  A view that has no plain form
is not rendered. -/
theorem renderView_rows (v : View) (layout : Layout) :
    renderView v rowTemplate (some (String.ofList layout.source)) =
      match v.plainObstacle? with
      | none => .ok (String.join (v.methods.map fun m => String.ofList (layout.filled m)))
      | some obstacle => .error (.defect obstacle.defect) := by
  have hblank : Text.isBlankText rowTemplate = false := by decide
  have htext : renderTemplate (templatesOf rowTemplate (some (String.ofList layout.source))) maxDepth
      (contextOf v.form []) className = .ok (v.methods.map fun m => layout.filled m).flatten :=
    renderTemplate_rows rfl rfl (lookup_contextOf_methods v)
  rw [renderView, hblank, View.handed]
  cases v.plainObstacle? with
  | some obstacle =>
      rfl
  | none =>
      have hjoined : String.ofList (v.methods.map fun m => layout.filled m).flatten =
          String.join (v.methods.map fun m => String.ofList (layout.filled m)) := by
        apply String.ext
        simp [String.toList_join, List.flatMap_def, Function.comp_def]
      change (renderTemplate _ _ _ _ >>= fun text => .ok (String.ofList text)) = _
      rw [htext, ok_bind, hjoined]

/-- A path on a line of its own. -/
def pathLine : Layout :=
  .next ⟨[], rfl⟩ .path (.last ⟨['\n'], rfl⟩)

/-- A path that reads like a tag, with a line break and marks of other languages in it. -/
def quotedDocument : Entries :=
  [(.str "swagger", .str "2.0"),
   (.str "paths", .object [("/\x7b\x7b x \x7d\x7d\r\n<&'\"", .object [("get", .object [])])])]

example :
    ((buildView (.map quotedDocument) {} (.str "custom")).outcome >>= fun v =>
      renderView v rowTemplate (some (String.ofList pathLine.source))).toOption =
        some "/\x7b\x7b x \x7d\x7d\r\n<&'\"\n" := by
  decide +kernel

/-- External documentation under a key that is not the bytes of a text. -/
def undecodableDocument : Entries :=
  [(.str "swagger", .str "2.0"),
   (.str "paths", .object
    [("/a", .object
      [("get", .object
        [("externalDocs", .object [("x", .map [(.bytes [0xff], .int 1)])])])])])]

/-- Not every view is rendered: a part of it may have no plain form. -/
theorem undecodableDocument_unrendered :
    ¬ ∀ v, (buildView (.map undecodableDocument) {} (.str "custom")).outcome = .ok v →
      ∀ layout : Layout, renderView v rowTemplate (some (String.ofList layout.source)) =
        .ok (String.join (v.methods.map fun m => String.ofList (layout.filled m))) := by
  intro hall
  have hrun : ((buildView (.map undecodableDocument) {} (.str "custom")).outcome.toOption.map
      fun v => (renderView v rowTemplate (some (String.ofList pathLine.source))).toOption) =
        some none := by
    decide +kernel
  obtain ⟨v, hv, hlost⟩ := exists_ok_of_toOption_map hrun
  rw [hall v hv pathLine] at hlost
  cases hlost

end Template
end ApiView
