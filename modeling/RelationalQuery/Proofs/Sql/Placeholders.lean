import RelationalQuery.Proofs.Sql.Parameters

/-!
# Numbering of placeholders

The placeholders in the text of a tree count its parameters from left to right.  The text falls into
fixed fragments with one placeholder between any two of them, and nothing but the placeholders
depends on their style or on what is bound already.

Main definitions:

- `Tree` is anything that is rendered; `Tree.render` goes on in a given context and `Tree.build`
  starts a new one.
- `alternation` is a text of fragments with placeholders between them.

Main results:

- `RenderContext.writeAll_eq`: writing tokens appends an alternation and their parameters.
- `Tree.render_numbers_placeholders`: rendering a tree numbers its parameters in their order.
-/

namespace RelationalQuery.Sql

/-! ## Trees -/

/-- Anything that is rendered. -/
inductive Tree where
  | expr (expr : Expr)
  | condition (condition : Condition)
  | statement (statement : Statement)
  | chain (chain : Chain)

namespace Tree

/-- The tokens of a tree. -/
def tokens : Tree → Rendered
  | .expr e => e.tokens
  | .condition c => c.tokens
  | .statement s => s.tokens
  | .chain c => c.tokens

/-- The parameters that a tree binds, from left to right. -/
def parameters : Tree → List Parameter
  | .expr e => e.parameters
  | .condition c => c.parameters
  | .statement s => s.parameters
  | .chain c => c.parameters

/-- Render a tree behind what a context holds. -/
def render (tree : Tree) (context : RenderContext) : Except QueryError RenderContext := do
  return context.writeAll (← tree.tokens)

/-- Render a tree on its own. -/
def build (tree : Tree) (style : PlaceholderStyle) : Except QueryError CompiledQuery := do
  return CompiledQuery.ofTokens style (← tree.tokens)

theorem parameters_of_tokens {tree : Tree} {tokens : List Token} (h : tree.tokens = .ok tokens) :
    Token.parameters tokens = tree.parameters := by
  cases tree with
  | expr e => exact Expr.parameters_of_tokens h
  | condition c => exact Condition.parameters_of_tokens h
  | statement s => exact Statement.parameters_of_tokens h
  | chain c => exact Chain.parameters_of_tokens h

end Tree

/-! ## Fragments -/

namespace Token

/-- The fixed text in front of the first parameter. -/
def firstFragment : List Token → String
  | [] => ""
  | .fixed text :: rest => text ++ firstFragment rest
  | .name identifier :: rest => identifier.quoted ++ firstFragment rest
  | .literal text :: rest => quoted '\'' text ++ firstFragment rest
  | .parameter _ :: _ => ""

/-- Each parameter with the fixed text that follows its placeholder. -/
def boundFragments : List Token → List (Parameter × String)
  | [] => []
  | .parameter value :: rest => (value, firstFragment rest) :: boundFragments rest
  | _ :: rest => boundFragments rest

theorem map_fst_boundFragments (tokens : List Token) :
    (boundFragments tokens).map (·.1) = parameters tokens := by
  induction tokens with
  | nil => rfl
  | cons token rest ih => cases token <;> simp [boundFragments, ih]

end Token

/-- A first fragment, and then for each parameter its placeholder with the fragment that follows; the
first placeholder has the given index. -/
def alternation (placeholder : Nat → String) (index : Nat) (first : String)
    (bound : List (Parameter × String)) : String :=
  first ++ String.join ((bound.zipIdx index).map fun item => placeholder item.2 ++ item.1.2)

/-- The fragment in front takes part in no placeholder. -/
theorem append_alternation (placeholder : Nat → String) (index : Nat) (text first : String)
    (bound : List (Parameter × String)) :
    text ++ alternation placeholder index first bound =
      alternation placeholder index (text ++ first) bound := by
  rw [alternation, alternation, String.append_assoc]

/-- A parameter takes the next placeholder, and those behind it are counted on. -/
theorem alternation_cons (placeholder : Nat → String) (index : Nat) (value : Parameter)
    (first : String) (bound : List (Parameter × String)) :
    alternation placeholder index "" ((value, first) :: bound) =
      placeholder index ++ alternation placeholder (index + 1) first bound := by
  simp [alternation, String.append_assoc]

/-! ## Writing of tokens -/

namespace RenderContext

/-- Writing tokens appends their fragments around placeholders that are counted on from the bound
parameters, and binds the parameters of the tokens. -/
theorem writeAll_eq (context : RenderContext) (tokens : List Token) :
    context.writeAll tokens = { context with
      sql := context.sql ++ alternation context.style.placeholder context.parameters.length
        (Token.firstFragment tokens) (Token.boundFragments tokens)
      parameters := context.parameters ++ Token.parameters tokens } := by
  induction tokens generalizing context with
  | nil => simp [writeAll, alternation, Token.firstFragment, Token.boundFragments]
  | cons token rest ih =>
    have hstep : context.writeAll (token :: rest) = (context.write token).writeAll rest := rfl
    rw [hstep, ih]
    cases token with
    | fixed text | name identifier | literal text =>
      simp [write, append, Token.firstFragment, Token.boundFragments, String.append_assoc,
        append_alternation]
    | parameter value =>
      simp [write, bind, append, Token.firstFragment, Token.boundFragments, String.append_assoc,
        alternation_cons]

end RenderContext

namespace Tree

/-- A tree that is rendered successfully has fragments and parameters of its own. -/
theorem render_of_tokens {tree : Tree} {tokens : List Token} (h : tree.tokens = .ok tokens)
    (context : RenderContext) :
    tree.render context = .ok { context with
      sql := context.sql ++ alternation context.style.placeholder context.parameters.length
        (Token.firstFragment tokens) (Token.boundFragments tokens)
      parameters := context.parameters ++ tree.parameters } := by
  rw [render, h, ← parameters_of_tokens h, ← context.writeAll_eq tokens]
  rfl

theorem build_of_tokens {tree : Tree} {tokens : List Token} (h : tree.tokens = .ok tokens)
    (style : PlaceholderStyle) :
    tree.build style = .ok ⟨alternation style.placeholder 0 (Token.firstFragment tokens)
      (Token.boundFragments tokens), tree.parameters⟩ := by
  have hcompiled : CompiledQuery.ofTokens style tokens =
      ⟨alternation style.placeholder 0 (Token.firstFragment tokens) (Token.boundFragments tokens),
        Token.parameters tokens⟩ := by
    rw [CompiledQuery.ofTokens, RenderContext.writeAll_eq]
    simp [RenderContext.start, RenderContext.finish]
  rw [build, h, ← parameters_of_tokens h, ← hcompiled]
  rfl

/-- Whether a tree can be rendered does not depend on the context.  If it can, then there are fixed
fragments such that in every context the text is extended by them with the placeholders of the next
indexes between them, and the parameters by those of the tree; each placeholder stands for the
parameter with its index.  On their own, the two styles give the same parameters, and texts that
differ in the placeholders only. -/
theorem render_numbers_placeholders (tree : Tree) :
    (∃ fault, (∀ context, tree.render context = .error fault) ∧
      ∀ style, tree.build style = .error fault) ∨
    ∃ (first : String) (bound : List (Parameter × String)),
      bound.map (·.1) = tree.parameters ∧
      (∀ context : RenderContext, tree.render context = .ok { context with
        sql := context.sql ++
          alternation context.style.placeholder context.parameters.length first bound
        parameters := context.parameters ++ tree.parameters }) ∧
      tree.build .named =
        .ok ⟨alternation (fun i => ":" ++ Text.natural i) 0 first bound, tree.parameters⟩ ∧
      tree.build .dollar =
        .ok ⟨alternation (fun i => "$" ++ Text.natural (i + 1)) 0 first bound,
          tree.parameters⟩ := by
  cases h : tree.tokens with
  | error fault =>
    left
    refine ⟨fault, fun context => ?_, fun style => ?_⟩
    · rw [render, h]
      rfl
    · rw [build, h]
      rfl
  | ok tokens =>
    right
    refine ⟨Token.firstFragment tokens, Token.boundFragments tokens, ?_, render_of_tokens h,
      build_of_tokens h .named, build_of_tokens h .dollar⟩
    rw [Token.map_fst_boundFragments, parameters_of_tokens h]

end Tree

end RelationalQuery.Sql
