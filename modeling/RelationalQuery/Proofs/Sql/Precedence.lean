import RelationalQuery.Proofs.Sql.Truth
import RelationalQuery.Proofs.Sql.Words

/-!
# Connectives of a text

The nodes of a condition are read with the precedence of SQL: operators bind more tightly than NOT,
NOT more tightly than AND, and AND more tightly than OR.  The first AND behind BETWEEN belongs to
it.  What stands between parentheses is a condition of its own where nothing else stands beside it,
and a part of a leaf otherwise.

Main definitions:

- `Reading` is a tree of connectives over leaves, which are lists of nodes.
- `Reading.ofNodes` reads nodes, and `Reading.of?` a compiled text.
- `Reading.truth` is the truth value under an assignment to the leaves.
- `IsConjunct` says that nodes stand as one part of a conjunction.

Main results:

- `truth_conjunctionNodes`: parts with AND between them are read as their conjunction.
- `isConjunct_disjunctionNodes`: parts with OR between them are read as their disjunction.
- `isConjunct_leaf` and `isConjunct_between`: leaves are read as such.
-/

namespace RelationalQuery.Sql

/-! ## Readings -/

/-- A condition as it is read from a text. -/
inductive Reading where
  /-- A predicate or a constant. -/
  | leaf (nodes : List Node)
  | not (inner : Reading)
  | and (left right : Reading)
  | or (left right : Reading)

namespace Node

/-- A word without quotes. -/
def keyword (text : String) : Node := .word (.symbol text)

/-- The node is the given word. -/
def isKeyword (text : String) : Node → Bool
  | .word (.symbol written) => written == text
  | _ => false

end Node

/-- A node with the reading of what it encloses, if it is a group. -/
abbrev ReadNode := Node × Option Reading

namespace Reading

/-- Readings that are joined by a connective, from left to right. -/
def chain (connect : Reading → Reading → Reading) : List Reading → Reading
  | [] => .leaf []
  | first :: rest => rest.foldl connect first

/-- The parts between the words AND.  A word BETWEEN that still lacks its own AND is pending. -/
def splitAnd : Bool → List ReadNode → List (List ReadNode)
  | _, [] => [[]]
  | pending, node :: rest =>
    if node.1.isKeyword "AND" then
      if pending then (splitAnd false rest).modifyHead (node :: ·) else [] :: splitAnd false rest
    else (splitAnd (pending || node.1.isKeyword "BETWEEN") rest).modifyHead (node :: ·)

/-- The reading of a part between the words AND. -/
def ofConjunct : List ReadNode → Reading
  | [] => .leaf []
  | node :: rest =>
    if node.1.isKeyword "NOT" then .not (ofConjunct rest)
    else if rest.isEmpty then node.2.getD (.leaf [node.1])
    else .leaf ((node :: rest).map (·.1))

/-- The reading of a part between the words OR. -/
def ofDisjunct (nodes : List ReadNode) : Reading :=
  chain .and ((splitAnd false nodes).map ofConjunct)

/-- The reading of nodes whose groups are read already. -/
def ofReadNodes (nodes : List ReadNode) : Reading :=
  chain .or ((nodes.splitOnP (·.1.isKeyword "OR")).map ofDisjunct)

end Reading

mutual

/-- The reading of what a group encloses. -/
def Node.inner? : Node → Option Reading
  | .word _ => none
  | .group nodes => some (Reading.ofReadNodes (Node.readAll nodes))

/-- Nodes with the readings of what they enclose. -/
def Node.readAll : List Node → List ReadNode
  | [] => []
  | node :: rest => (node, node.inner?) :: Node.readAll rest

end

namespace Reading

/-- The reading of nodes. -/
def ofNodes (nodes : List Node) : Reading := ofReadNodes (Node.readAll nodes)

example : ofNodes (["NOT", "A", "AND", "B", "OR", "C", "BETWEEN", "1", "AND", "2", "AND", "D"].map
    .keyword) =
      .or (.and (.not (.leaf [.keyword "A"])) (.leaf [.keyword "B"]))
        (.and (.leaf (["C", "BETWEEN", "1", "AND", "2"].map .keyword)) (.leaf [.keyword "D"])) :=
  rfl

/-- The reading of a compiled text whose placeholders stand for its parameters. -/
def of? (style : PlaceholderStyle) (compiled : CompiledQuery) : Option Reading :=
  (nodes? style compiled).map ofNodes

/-- The truth value of a leaf: the words for truth values stand for themselves. -/
def leafTruth (assign : List Node → Truth) : List Node → Truth
  | [node] =>
    if node.isKeyword "TRUE" then .yes else if node.isKeyword "FALSE" then .no else assign [node]
  | nodes => assign nodes

/-- The truth value of a reading under an assignment to its leaves. -/
def truth (assign : List Node → Truth) : Reading → Truth
  | .leaf nodes => leafTruth assign nodes
  | .not inner => (inner.truth assign).not
  | .and left right => (left.truth assign).and (right.truth assign)
  | .or left right => (left.truth assign).or (right.truth assign)

section

variable (assign : List Node → Truth) (first : Reading) (rest : List Reading)

/-- A chain of conjuncts is their conjunction. -/
theorem truth_chain_and :
    (chain .and (first :: rest)).truth assign =
      Truth.all ((first :: rest).map (truth assign)) := by
  rw [chain]
  induction rest generalizing first with
  | nil => simp
  | cons next rest ih =>
    rw [List.foldl_cons, ih, List.map_cons, Truth.all_cons, truth, Truth.and_assoc]
    rfl

/-- A chain of disjuncts is their disjunction. -/
theorem truth_chain_or :
    (chain .or (first :: rest)).truth assign =
      Truth.any ((first :: rest).map (truth assign)) := by
  rw [chain]
  induction rest generalizing first with
  | nil => simp
  | cons next rest ih =>
    rw [List.foldl_cons, ih, List.map_cons, Truth.any_cons, truth, Truth.or_assoc]
    rfl

end

end Reading

/-! ## Parts of conjunctions -/

/-- Nodes are read one by one. -/
theorem Node.readAll_append (front back : List Node) :
    readAll (front ++ back) = readAll front ++ readAll back := by
  induction front with
  | nil => rfl
  | cons node rest ih => rw [List.cons_append, readAll, readAll, ih, List.cons_append]

/-- Reading keeps the nodes. -/
theorem Node.map_fst_readAll (nodes : List Node) : (readAll nodes).map (·.1) = nodes := by
  induction nodes with
  | nil => rfl
  | cons node rest ih => rw [readAll, List.map_cons, ih]

/-- A node that is not one of the words at which a condition is split.  NOT is not among them: it
is a connective only where a part starts with it. -/
def Node.isPlain (node : Node) : Bool :=
  !node.isKeyword "OR" && !node.isKeyword "AND" && !node.isKeyword "BETWEEN"

/-- A plain node is none of the words that join conditions. -/
theorem Node.isPlain_iff {node : Node} : node.isPlain = true ↔
    node.isKeyword "OR" = false ∧ node.isKeyword "AND" = false ∧
      node.isKeyword "BETWEEN" = false := by
  simp [isPlain, and_assoc]

/-- Nodes that end no part of a conjunction: where BETWEEN lacks its AND before them or not, they
stay together and leave it so or so. -/
def Passes (before behind : Bool) (nodes : List Node) : Prop :=
  ∀ rest, Reading.splitAnd before (Node.readAll nodes ++ rest) =
    (Reading.splitAnd behind rest).modifyHead (Node.readAll nodes ++ ·)

namespace Passes

/-- Nodes that are passed one after the other are passed together. -/
theorem append {before between behind : Bool} {front back : List Node}
    (hfront : Passes before between front) (hback : Passes between behind back) :
    Passes before behind (front ++ back) := by
  intro rest
  rw [Node.readAll_append, List.append_assoc, hfront, hback, List.modifyHead_modifyHead]
  congr 1
  funext part
  exact (List.append_assoc _ _ _).symm

/-- Nodes without the words of ranges and conjunctions are passed. -/
theorem of_forall {pending : Bool} {nodes : List Node}
    (h : ∀ node ∈ nodes, node.isKeyword "AND" = false ∧ node.isKeyword "BETWEEN" = false) :
    Passes pending pending nodes := by
  intro rest
  induction nodes with
  | nil =>
    cases hsplit : Reading.splitAnd pending rest with
    | nil => simp [Node.readAll, hsplit]
    | cons part parts => simp [Node.readAll, hsplit]
  | cons node nodes ih =>
    have hnode := h node List.mem_cons_self
    rw [Node.readAll, List.cons_append, Reading.splitAnd, if_neg (by simp [hnode.1]), hnode.2,
      Bool.or_false, ih fun other hother => h other (List.mem_cons_of_mem _ hother),
      List.modifyHead_modifyHead]
    rfl

/-- Plain nodes are passed. -/
theorem plain {pending : Bool} {nodes : List Node} (h : ∀ node ∈ nodes, node.isPlain = true) :
    Passes pending pending nodes :=
  of_forall fun node hnode => by
    have hplain := Node.isPlain_iff.1 (h node hnode)
    exact hplain.2

/-- Behind BETWEEN its AND is pending. -/
theorem between {pending : Bool} : Passes pending true [.keyword "BETWEEN"] := by
  intro rest
  rw [Node.readAll, Node.readAll, List.cons_append, Reading.splitAnd, if_neg (by decide)]
  have hpending : (pending || (Node.keyword "BETWEEN").isKeyword "BETWEEN") = true :=
    Bool.or_eq_true_iff.2 (.inr (by decide))
  rw [hpending]
  rfl

/-- The AND of BETWEEN stays with it. -/
theorem ownAnd : Passes true false [.keyword "AND"] := by
  intro rest
  rw [Node.readAll, Node.readAll, List.cons_append, Reading.splitAnd, if_pos (by decide),
    if_pos rfl]
  rfl

end Passes

/-- Nodes stand as one part of a conjunction, and are read in the given way. -/
structure IsConjunct (nodes : List Node) (reading : Reading) : Prop where
  undivided : ∀ node ∈ nodes, node.isKeyword "OR" = false
  passes : Passes false false nodes
  read : Reading.ofConjunct (Node.readAll nodes) = reading

/-- A part of a conjunction on its own. -/
theorem IsConjunct.splitAnd {nodes : List Node} {reading : Reading} (h : IsConjunct nodes reading) :
    Reading.splitAnd false (Node.readAll nodes) = [Node.readAll nodes] := by
  have hpasses := h.passes []
  rwa [List.append_nil, Reading.splitAnd, List.modifyHead_cons, List.append_nil] at hpasses

/-- Several nodes that do not start with NOT are a leaf. -/
theorem ofConjunct_leaf {node : Node} {rest : List Node} (affirmed : node.isKeyword "NOT" = false)
    (beside : rest ≠ []) :
    Reading.ofConjunct (Node.readAll (node :: rest)) = .leaf (node :: rest) := by
  have hnodes : (Node.readAll (node :: rest)).map (·.1) = node :: rest := Node.map_fst_readAll _
  have hrest : (Node.readAll rest).isEmpty = false := by
    cases rest with
    | nil => exact absurd rfl beside
    | cons next rest => rfl
  rw [Node.readAll] at hnodes ⊢
  rw [Reading.ofConjunct, if_neg (by simp [affirmed]), if_neg (by simp [hrest]), hnodes]

section

variable {node : Node} {nodes front low high : List Node} {reading : Reading}

/-- A leaf has several nodes and does not start with NOT. -/
theorem isConjunct_leaf (affirmed : node.isKeyword "NOT" = false) (beside : nodes ≠ [])
    (plain : ∀ other ∈ node :: nodes, other.isPlain = true) :
    IsConjunct (node :: nodes) (.leaf (node :: nodes)) where
  undivided other hother := (Node.isPlain_iff.1 (plain other hother)).1
  passes := .plain plain
  read := ofConjunct_leaf affirmed beside

/-- The leaf of BETWEEN with its bounds. -/
theorem isConjunct_between (affirmed : node.isKeyword "NOT" = false)
    (plain : ∀ other ∈ node :: front, other.isPlain = true)
    (hlow : ∀ other ∈ low, other.isPlain = true) (hhigh : ∀ other ∈ high, other.isPlain = true) :
    IsConjunct (node :: front ++ ([.keyword "BETWEEN"] ++ (low ++ ([.keyword "AND"] ++ high))))
      (.leaf (node :: front ++
        ([.keyword "BETWEEN"] ++ (low ++ ([.keyword "AND"] ++ high))))) where
  undivided other hother := by
    simp only [List.mem_append, List.mem_singleton] at hother
    rcases hother with h | rfl | h | rfl | h
    · exact (Node.isPlain_iff.1 (plain other h)).1
    · decide
    · exact (Node.isPlain_iff.1 (hlow other h)).1
    · decide
    · exact (Node.isPlain_iff.1 (hhigh other h)).1
  passes :=
    (Passes.plain plain).append (Passes.between.append ((Passes.plain hlow).append
      (Passes.ownAnd.append (.plain hhigh))))
  read := ofConjunct_leaf affirmed (by simp)

/-- The negation of a conjunct is a conjunct. -/
theorem IsConjunct.not (h : IsConjunct nodes reading) :
    IsConjunct (.keyword "NOT" :: nodes) (.not reading) where
  undivided := List.forall_mem_cons.2 ⟨by decide, h.undivided⟩
  passes := by
    have hnot : Passes false false [.keyword "NOT"] := .of_forall (by decide)
    exact hnot.append h.passes
  read := by
    rw [Node.readAll, Reading.ofConjunct, if_pos (by decide), h.read]

/-- A group that stands alone is a condition of its own. -/
theorem isConjunct_group (nodes : List Node) :
    IsConjunct [.group nodes] (Reading.ofNodes nodes) where
  undivided := List.forall_mem_singleton.2 rfl
  passes := .plain (List.forall_mem_singleton.2 rfl)
  read := rfl

end

/-! ## Conjunctions and disjunctions -/

/-- Parts with AND between them; without parts the condition is true. -/
def conjunctionNodes (parts : List (List Node)) : List Node :=
  if parts.isEmpty then [.keyword "TRUE"] else List.intercalate [.keyword "AND"] parts

/-- Parts between parentheses with OR between them; without parts the condition is false. -/
def disjunctionNodes (parts : List (List Node)) : List Node :=
  if parts.isEmpty then [.keyword "FALSE"]
  else [.group (List.intercalate [.keyword "OR"] (parts.map fun nodes => [.group nodes]))]

/-- What holds no OR is not divided by it. -/
theorem splitOr_eq_singleton {nodes : List Node}
    (undivided : ∀ node ∈ nodes, node.isKeyword "OR" = false) :
    (Node.readAll nodes).splitOnP (·.1.isKeyword "OR") = [Node.readAll nodes] := by
  refine List.splitOnP_eq_singleton fun node hnode => undivided node.1 ?_
  rw [← Node.map_fst_readAll nodes]
  exact List.mem_map_of_mem hnode

section

variable {parts : List (List Node × Reading)}

/-- Conjuncts with AND between them are divided into these. -/
theorem splitAnd_intercalate (conjuncts : ∀ part ∈ parts, IsConjunct part.1 part.2)
    (nonempty : parts ≠ []) :
    Reading.splitAnd false (Node.readAll (List.intercalate [.keyword "AND"] (parts.map (·.1)))) =
      parts.map fun part => Node.readAll part.1 := by
  induction parts with
  | nil => exact absurd rfl nonempty
  | cons part rest ih =>
    have hpart := conjuncts part List.mem_cons_self
    cases rest with
    | nil => simpa using hpart.splitAnd
    | cons next rest =>
      have hrest := ih (fun other hother => conjuncts other (List.mem_cons_of_mem _ hother))
        (List.cons_ne_nil _ _)
      have hand : ∀ behind, Reading.splitAnd false (Node.readAll [.keyword "AND"] ++ behind) =
          [] :: Reading.splitAnd false behind := fun _ => rfl
      rw [List.map_cons, List.map_cons] at hrest
      rw [List.map_cons, List.map_cons, List.intercalate_cons_cons, Node.readAll_append,
        Node.readAll_append, List.append_assoc, hpart.passes, hand, hrest, List.modifyHead_cons,
        List.append_nil]
      rfl

/-- Conjuncts with AND between them hold no OR. -/
theorem undivided_intercalate (conjuncts : ∀ part ∈ parts, IsConjunct part.1 part.2) :
    ∀ node ∈ List.intercalate [.keyword "AND"] (parts.map (·.1)),
      node.isKeyword "OR" = false := by
  induction parts with
  | nil => simp
  | cons part rest ih =>
    have hpart := conjuncts part List.mem_cons_self
    have hrest := ih fun other hother => conjuncts other (List.mem_cons_of_mem _ hother)
    cases rest with
    | nil => simpa using hpart.undivided
    | cons next rest =>
      rw [List.map_cons] at hrest
      rw [List.map_cons, List.map_cons, List.intercalate_cons_cons]
      intro node hnode
      simp only [List.mem_append, List.mem_singleton] at hnode
      rcases hnode with (h | rfl) | h
      · exact hpart.undivided node h
      · decide
      · exact hrest node h

/-- Parts with AND between them are read as their conjunction. -/
theorem truth_conjunctionNodes (conjuncts : ∀ part ∈ parts, IsConjunct part.1 part.2)
    (assign : List Node → Truth) :
    (Reading.ofNodes (conjunctionNodes (parts.map (·.1)))).truth assign =
      Truth.all (parts.map fun part => part.2.truth assign) := by
  cases parts with
  | nil => rfl
  | cons part rest =>
    have hread : ((part :: rest).map fun part => Node.readAll part.1).map Reading.ofConjunct =
        (part :: rest).map (·.2) := by
      rw [List.map_map]
      exact List.map_congr_left fun part hpart => (conjuncts part hpart).read
    have hnodes : conjunctionNodes ((part :: rest).map (·.1)) =
        List.intercalate [.keyword "AND"] ((part :: rest).map (·.1)) := rfl
    have hdisjunct : Reading.ofNodes (conjunctionNodes ((part :: rest).map (·.1))) =
        Reading.chain .and ((part :: rest).map (·.2)) := by
      rw [hnodes, Reading.ofNodes, Reading.ofReadNodes,
        splitOr_eq_singleton (undivided_intercalate conjuncts), ← hread,
        ← splitAnd_intercalate conjuncts (List.cons_ne_nil _ _)]
      rfl
    rw [hdisjunct, List.map_cons, Reading.truth_chain_and, ← List.map_cons, List.map_map]
    rfl

end

/-- Groups with OR between them are divided into these. -/
theorem splitOr_intercalate {parts : List (List Node)} (nonempty : parts ≠ []) :
    (Node.readAll (List.intercalate [.keyword "OR"]
      (parts.map fun nodes => [.group nodes]))).splitOnP (·.1.isKeyword "OR") =
        parts.map fun nodes => Node.readAll [.group nodes] := by
  induction parts with
  | nil => exact absurd rfl nonempty
  | cons part rest ih =>
    cases rest with
    | nil => exact splitOr_eq_singleton (List.forall_mem_singleton.2 rfl)
    | cons next rest =>
      have hrest := ih (List.cons_ne_nil _ _)
      rw [List.map_cons] at hrest
      rw [List.map_cons, List.map_cons, List.intercalate_cons_cons, Node.readAll_append,
        Node.readAll_append, List.append_assoc]
      have hor : ∀ behind, Node.readAll [.keyword "OR"] ++ behind =
          (.keyword "OR", none) :: behind := fun _ => rfl
      rw [hor, List.splitOnP_append_cons _ _ (by decide), hrest,
        splitOr_eq_singleton (List.forall_mem_singleton.2 rfl)]
      rfl

/-- Parts between parentheses with OR between them are read as their disjunction. -/
theorem isConjunct_disjunctionNodes (parts : List (List Node)) :
    ∃ reading, IsConjunct (disjunctionNodes parts) reading ∧ ∀ assign, reading.truth assign =
      Truth.any (parts.map fun nodes => (Reading.ofNodes nodes).truth assign) := by
  cases parts with
  | nil =>
    refine ⟨.leaf [.keyword "FALSE"], ⟨by decide, .plain (by decide), rfl⟩, fun _ => rfl⟩
  | cons part rest =>
    refine ⟨_, isConjunct_group _, fun assign => ?_⟩
    have hgroups : ((part :: rest).map fun nodes => Node.readAll [.group nodes]).map
        Reading.ofDisjunct = (part :: rest).map Reading.ofNodes := by
      rw [List.map_map]
      rfl
    rw [Reading.ofNodes, Reading.ofReadNodes, splitOr_intercalate (List.cons_ne_nil _ _), hgroups,
      List.map_cons, Reading.truth_chain_or, ← List.map_cons, List.map_map]
    rfl

end RelationalQuery.Sql
