import Transplant.Proofs.Yaml.Word
import Transplant.Yaml.Load

/-!
# Nodes read forwards

What a reader of nodes does where the tokens in front of it are known (`Sees`), and what becomes of the nodes. A
scalar and a block mapping with one entry are enough for documents of nested fields: first their nodes
(`parseNode_scalar`, `parseNode_mapping`, `blockEntries_single`), then their parts (`part_scalar`,
`collection_single`).
-/

namespace Transplant.Yaml

/-- A step that succeeds is followed by the next one. -/
theorem run_bind_ok {σ α β : Type} {x : StateT σ (Except Fault) α} {s s' : σ} {a : α} (h : x.run s = .ok (a, s'))
    (f : α → StateT σ (Except Fault) β) : (x >>= f).run s = (f a).run s' := by
  rw [StateT.run_bind, h]
  rfl

namespace Graph

variable {r r' s : Reader} {p : Piece} {ps : List Piece} {t other : Token} {start stop : Mark} {x : Scalar}
  {fuel : Nat}

/-! ## Tokens in front -/

/-- The reader behind the token that it has in front. -/
def Reader.advanced (r : Reader) : Reader :=
  { r with lexer := { r.lexer with tokens := r.lexer.tokens.tail, taken := r.lexer.taken + 1 } }

/-- The reader with one more node. -/
def Reader.pushed (r : Reader) (n : Node) : Reader :=
  { r with graph := r.graph.push n }

theorem run_advance (r : Reader) : advance.run r = .ok ((), r.advanced) := rfl

theorem run_peekPiece {l : Lexer} (hfill : r.lexer.fill (r.lexer.cursor.rest.length + 2) = .ok l)
    (htokens : l.tokens = p :: ps) : peekPiece.run r = .ok (p, { r with lexer := l }) := by
  have hget : (get : Parse Reader).run r = .ok (r, r) := rfl
  have hread : (liftM (r.lexer.fill (r.lexer.cursor.rest.length + 2)) : Parse Lexer).run r = .ok (l, r) := by
    rw [hfill]
    rfl
  have hset : (set { r with lexer := l } : Parse PUnit).run r = .ok ((), { r with lexer := l }) := rfl
  rw [peekPiece, run_bind_ok hget, run_bind_ok hread, run_bind_ok hset, htokens]
  rfl

/-- A reader with a piece in front of it, and what it is when it has looked at that. -/
structure Sees (r : Reader) (p : Piece) (r' : Reader) : Prop where
  first : peekPiece.run r = .ok (p, r')
  again : peekPiece.run r' = .ok (p, r')

namespace Sees

theorem of_ready (htokens : r.lexer.tokens = p :: ps) (hkeys : r.lexer.keys = []) : Sees r p r := by
  have hlook := run_peekPiece (Lexer.fill_of_ready htokens hkeys (r.lexer.cursor.rest.length + 1)) htokens
  exact ⟨hlook, hlook⟩

theorem of_fill {l : Lexer} (hfill : r.lexer.fill (r.lexer.cursor.rest.length + 2) = .ok l)
    (htokens : l.tokens = p :: ps) (hkeys : l.keys = []) : Sees r p { r with lexer := l } :=
  ⟨run_peekPiece hfill htokens, (of_ready (r := { r with lexer := l }) htokens hkeys).first⟩

theorem looked (h : Sees r p r') : Sees r' p r' := ⟨h.again, h.again⟩

theorem peek (h : Sees r ⟨t, start, stop⟩ r') : peek.run r = .ok (t, r') := by
  rw [Graph.peek, run_bind_ok h.first]
  rfl

theorem accept? (h : Sees r ⟨t, start, stop⟩ r') : (accept? t).run r = .ok (some stop, r'.advanced) := by
  rw [Graph.accept?, run_bind_ok h.first, if_pos (beq_self_eq_true t), run_bind_ok (run_advance r')]
  rfl

theorem accept?_other (h : Sees r ⟨t, start, stop⟩ r') (hother : t ≠ other) :
    (Graph.accept? other).run r = .ok (none, r') := by
  rw [Graph.accept?, run_bind_ok h.first, if_neg (by simpa using hother)]
  rfl

theorem accept (h : Sees r ⟨t, start, stop⟩ r') : (accept t).run r = .ok (true, r'.advanced) := by
  rw [Graph.accept, run_bind_ok h.accept?]
  rfl

theorem accept_other (h : Sees r ⟨t, start, stop⟩ r') (hother : t ≠ other) :
    (Graph.accept other).run r = .ok (false, r') := by
  rw [Graph.accept, run_bind_ok (h.accept?_other hother)]
  rfl

end Sees

/-! ## Nodes without properties -/

/-- The node of a plain scalar of some type. -/
def plainNode (type : Tag) (text : List Char) (start : Mark) : Node :=
  ⟨type, .scalar ⟨text, true, none⟩, start⟩

theorem expandTag_none (r : Reader) : (expandTag ⟨none, none, none⟩).run r = .ok (none, r) := rfl

theorem addNamed_none (n : Node) (r : Reader) : (addNamed none n).run r = .ok (r.graph.size, r.pushed n) := rfl

theorem parseNode_scalar (h : Sees r ⟨.scalar x, start, stop⟩ r') (block indentless : Bool) (fuel : Nat) :
    (parseNode block indentless (fuel + 1)).run r =
      .ok (r'.graph.size, (r'.pushed ⟨scalarTag none x, .scalar x, start⟩).advanced) := by
  have hproperties : properties.run r' = .ok (⟨none, none, none⟩, r') := by
    rw [properties, run_bind_ok h.again]
    rfl
  rw [parseNode, run_bind_ok h.first, run_bind_ok hproperties, run_bind_ok (expandTag_none r'), run_bind_ok h.again]
  dsimp only
  rw [run_bind_ok (run_advance r')]
  rfl

/-- A mapping is added before its entries are read, and gets them afterwards. -/
theorem parseNode_mapping {es : List (NodeId × NodeId)} (h : Sees r ⟨.blockMappingStart, start, stop⟩ r')
    (hentries : (blockEntries start fuel).run (r'.pushed ⟨.mapping, .mapping [], start⟩).advanced = .ok (es, s))
    (indentless : Bool) :
    (parseNode true indentless (fuel + 1)).run r =
      .ok (r'.graph.size, { s with graph := s.graph.setContent r'.graph.size (.mapping es) }) := by
  have hproperties : properties.run r' = .ok (⟨none, none, none⟩, r') := by
    rw [properties, run_bind_ok h.again]
    rfl
  have hanchor : (checkAnchor none start).run r' = .ok ((), r') := rfl
  have htype : collectionTag none .mapping = .mapping := rfl
  rw [parseNode, run_bind_ok h.first, run_bind_ok hproperties, run_bind_ok (expandTag_none r'), run_bind_ok h.again]
  dsimp only
  rw [if_pos rfl, Option.getD_none, htype, run_bind_ok hanchor, run_bind_ok (addNamed_none _ r'), map_eq_pure_bind,
    bind_assoc, bind_assoc, run_bind_ok (run_advance _), run_bind_ok hentries]
  rfl

/-! ## Entries -/

/-- A part of an entry that is not left out, with its node. -/
def HasPart (fuel : Nat) (r : Reader) (id : NodeId) (s : Reader) : Prop :=
  ∃ t start stop r', Sees r ⟨t, start, stop⟩ r' ∧ endsBlockEntry t = false ∧
    (parseNode true true fuel).run r' = .ok (id, s)

theorem hasPart_plain {text : List Char} (h : Sees r ⟨.scalar ⟨text, true, none⟩, start, stop⟩ r') (fuel : Nat) :
    HasPart (fuel + 1) r r'.graph.size (r'.pushed (plainNode (.ofPlain text) text start)).advanced :=
  ⟨_, _, _, r', h, rfl, parseNode_scalar h.looked true true fuel⟩

theorem hasPart_mapping {es : List (NodeId × NodeId)} (h : Sees r ⟨.blockMappingStart, start, stop⟩ r')
    (hentries : (blockEntries start fuel).run (r'.pushed ⟨.mapping, .mapping [], start⟩).advanced = .ok (es, s)) :
    HasPart (fuel + 1) r r'.graph.size { s with graph := s.graph.setContent r'.graph.size (.mapping es) } :=
  ⟨_, _, _, r', h, rfl, parseNode_mapping h.looked hentries true⟩

theorem blockEntries_single {opening keyStart keyStop valueStart valueStop endStart endStop : Mark}
    {key value : NodeId} {r₁ r₂ r₃ r₄ r₅ : Reader} (hkey : Sees r ⟨.key, keyStart, keyStop⟩ r₁)
    (hname : HasPart (fuel + 1) r₁.advanced key r₂) (hvalue : Sees r₂ ⟨.value, valueStart, valueStop⟩ r₃)
    (hcontent : HasPart (fuel + 1) r₃.advanced value r₄) (hend : Sees r₄ ⟨.blockEnd, endStart, endStop⟩ r₅) :
    (blockEntries opening (fuel + 2)).run r = .ok ([(key, value)], r₅.advanced) := by
  obtain ⟨_, _, _, _, hpeek, hopens, hnode⟩ := hname
  obtain ⟨_, _, _, _, hpeek', hopens', hnode'⟩ := hcontent
  have hrest : (blockEntries opening (fuel + 1)).run r₄ = .ok ([], r₅.advanced) := by
    rw [blockEntries, run_bind_ok (hend.accept?_other (by decide))]
    dsimp only
    rw [run_bind_ok hend.looked.accept]
    rfl
  rw [blockEntries, run_bind_ok hkey.accept?]
  dsimp only
  rw [bind_assoc, run_bind_ok hpeek.peek, hopens, if_neg Bool.false_ne_true, run_bind_ok hnode,
    run_bind_ok hvalue.accept?]
  dsimp only
  rw [bind_assoc, run_bind_ok hpeek'.peek, hopens', if_neg Bool.false_ne_true, run_bind_ok hnode', run_bind_ok hrest]
  rfl

/-! ## Documents -/

theorem single_of_parseNode {r₁ r₂ r₃ : Reader} {root : NodeId} {endStart endStop : Mark}
    (hfirst : Sees r ⟨t, start, stop⟩ r₁) (hedge : isEdge t = false)
    (hroot : (parseNode true false (fuel + 1)).run { r₁ with handles := usualHandles } = .ok (root, r₂))
    (hend : Sees r₂ ⟨.streamEnd, endStart, endStop⟩ r₃) :
    (single (fuel + 1)).run r = .ok (some root, r₃) := by
  have hhandles : (modify fun r => { r with handles := usualHandles } : Parse PUnit).run r₁ =
      .ok ((), { r₁ with handles := usualHandles }) := rfl
  have hskip : (skipEnds (fuel + 1)).run r₂ = .ok ((), r₃) := by
    rw [skipEnds, run_bind_ok (hend.accept_other (by decide)), if_neg Bool.false_ne_true]
    rfl
  rw [single, run_bind_ok hfirst.peek, hedge]
  dsimp only
  rw [Bool.not_false, Bool.true_or, if_pos rfl, run_bind_ok hhandles, run_bind_ok hroot, pure_bind, run_bind_ok hskip,
    run_bind_ok hend.again]
  rfl

end Graph

/-! ## Parts -/

namespace Build

variable {b b₁ b₂ : Building} {id k v : NodeId} {mark : Mark}

theorem run_get (b : Building) : (get : Build Building).run b = .ok (b, b) := rfl

theorem part_scalar {d : Data} (hnew : b.known.find? (·.1 == id) = none)
    (hscalar : (b.graph.node id).tag.isCollection = false) (hd : scalar b.graph id = .ok d) :
    (part id).run b = .ok (.data d, { b with known := (id, .data d) :: b.known }) := by
  have hread : (liftM (scalar b.graph id) : Build Data).run b = .ok (d, b) := by
    rw [hd]
    rfl
  rw [part, run_bind_ok (run_get b), hnew]
  dsimp only
  rw [hscalar, if_neg Bool.false_ne_true, run_bind_ok hread]
  rfl

theorem collection_single {key : Data} {value : Part} (hnode : b.graph.node id = ⟨.mapping, .mapping [(k, v)], mark⟩)
    (hentries : (entries id).run b = .ok ([(k, v)], b)) (hkey : (part k).run b = .ok (.data key, b₁))
    (hvalue : (part v).run b₁ = .ok (value, b₂)) : (collection id).run b = .ok (.map [(key, value)], b₂) := by
  have hread : (node id).run b = .ok (⟨.mapping, .mapping [(k, v)], mark⟩, b) := by
    rw [← hnode]
    rfl
  have hmapping : (mapping id).run b = .ok ([(key, value)], b₂) := by
    rw [mapping, run_bind_ok hread]
    dsimp only
    rw [run_bind_ok hentries, List.mapM_cons, List.mapM_nil, bind_assoc, run_bind_ok hkey]
    dsimp only
    rw [bind_assoc, run_bind_ok hvalue]
    rfl
  rw [collection, run_bind_ok hread]
  dsimp only
  rw [map_eq_pure_bind, run_bind_ok hmapping]
  rfl

theorem finish_single {c : Collection} (hwaiting : b.waiting = [id])
    (hcollection : (collection id).run { b with waiting := [] } = .ok (c, b₁)) (fuel : Nat) :
    (finish (fuel + 1)).run b = (finish fuel).run { b₁ with collections := (id, c) :: b₁.collections } := by
  have hset : (set { b with waiting := [] } : Build PUnit).run b = .ok ((), { b with waiting := [] }) := rfl
  rw [finish, run_bind_ok (run_get b), hwaiting, if_neg (by simp), run_bind_ok hset, List.reverse_singleton,
    List.forIn_cons, bind_assoc, bind_assoc, run_bind_ok hcollection]
  rfl

theorem finish_nil (hwaiting : b.waiting = []) (fuel : Nat) : (finish (fuel + 1)).run b = .ok ((), b) := by
  rw [finish, run_bind_ok (run_get b), hwaiting]
  rfl

end Build

/-- A document is what its root is built as. -/
theorem load_of_graph {source : Source} {g : Graph} {root : NodeId} (h : Graph.ofSource? source = .ok (some root, g)) :
    load source = dataOfGraph g root := by
  rw [load, h]
  rfl

end Transplant.Yaml
