import Copyedit.Proofs.Outcome
import Copyedit.Proofs.Yaml.Lexer
import Copyedit.Yaml.Node

/-!
# Nodes of a layout

`Reads` says what a part of a document is read as and which tokens and nodes there are before and after
it.  Lists and mappings in block style are read part by part (`Reads.blockItems_cons`,
`Reads.blockPairs_cons`), whatever else there is in the document.  Main statement: the document of a
layout of words has the nodes that it is written with (`ofText?_layout`).
-/

namespace Copyedit.Yaml

namespace Compose

/-! ### Reading -/

/-- A token has been looked at, and can be skipped. -/
def Settled (s : Lexer) (t : Token) (ts : List Token) : Prop := s.peek = .ok (t, s) ∧ Streams s.take ts

theorem Settled.streams {s : Lexer} {t : Token} {ts : List Token} (h : Settled s t ts) :
    Streams s (t :: ts) :=
  .cons h.1 h.1 h.2

/-- Whether a token is a name or a tag of the node that follows. -/
def isProperty : Token → Bool
  | .anchor _ | .tag .. => true
  | _ => false

/-- From tokens of which `P` is known and with the nodes `ns` so far, a part is read as `a`.  After it, `Q` is
known of the tokens that are left, and the nodes are `ns'`.  No node has a name. -/
def Reads {α : Type} (P : Lexer → Prop) (depth : Nat) (ns : Array Node) (part : Compose α) (a : α)
    (Q : Lexer → Prop) (ns' : Array Node) : Prop :=
  ∀ σ : Composer, P σ.lexer → σ.depth = depth → σ.nodes = ns → σ.named = [] →
    ∃ lexer, Q lexer ∧ part.run σ = .ok (a, { σ with lexer, nodes := ns' })

namespace Reads

variable {α β : Type} {P Q R : Lexer → Prop} {depth : Nat} {ns ns' ns'' : Array Node} {a : α} {b : β}
  {t : Token} {ts : List Token}

theorem pure (a : α) : Reads P depth ns (pure a : Compose α) a P ns := by
  intro σ hP _ hns _
  obtain ⟨⟩ := σ
  subst hns
  exact ⟨_, hP, rfl⟩

theorem bind {part : Compose α} {next : α → Compose β} (h : Reads P depth ns part a Q ns')
    (hnext : Reads Q depth ns' (next a) b R ns'') : Reads P depth ns (part >>= next) b R ns'' := by
  intro σ hP hdepth hns hnamed
  obtain ⟨lexer, hQ, hpart⟩ := h σ hP hdepth hns hnamed
  obtain ⟨lexer', hR, hrest⟩ := hnext { σ with lexer, nodes := ns' } hQ hdepth rfl hnamed
  refine ⟨lexer', hR, ?_⟩
  rw [StateT.run_bind, hpart]
  exact hrest

/-- A part that only looks changes nothing for the next one. -/
theorem bind_of_same {part : Compose α} {next : α → Compose β} (h : Reads P depth ns part a P ns)
    (hnext : Reads P depth ns (next a) b R ns'') : Reads P depth ns (part >>= next) b R ns'' :=
  h.bind hnext

theorem of_eq {part : Compose α} {a' : α} (h : Reads P depth ns part a Q ns') (ha : a = a')
    (hns : ns' = ns'') : Reads P depth ns part a' Q ns'' :=
  ha ▸ hns ▸ h

theorem weaken {part : Compose α} (h : Reads Q depth ns part a R ns') (hPQ : ∀ s, P s → Q s) :
    Reads P depth ns part a R ns' :=
  fun σ hP hdepth hns hnamed => h σ (hPQ _ hP) hdepth hns hnamed

theorem run_peek (σ : Composer) : Compose.peek.run σ =
    (σ.lexer.peek).bind fun r => .ok (r.1, { σ with lexer := r.2 }) := by
  cases h : σ.lexer.peek <;> simp [Compose.peek, h] <;> rfl

/-- Looking at the next token settles it. -/
theorem peek : Reads (Streams · (t :: ts)) depth ns Compose.peek t (Settled · t ts) ns := by
  intro σ hP _ hns _
  cases hP with
  | @cons s s' _ _ hpeek hagain hrest =>
    refine ⟨s', ⟨hagain, hrest⟩, ?_⟩
    rw [run_peek, hpeek]
    obtain ⟨⟩ := σ
    subst hns
    rfl

theorem peekAgain : Reads (Settled · t ts) depth ns Compose.peek t (Settled · t ts) ns :=
  peek.weaken fun _ h => h.streams

theorem skip : Reads (Settled · t ts) depth ns Compose.skip () (Streams · ts) ns := by
  intro σ hP _ hns _
  obtain ⟨⟩ := σ
  subst hns
  exact ⟨_, hP.2, rfl⟩

theorem begin_ (n : Node) : Reads P depth ns (Compose.begin_ n) ns.size P (ns.push n) := by
  intro σ hP _ hns _
  obtain ⟨⟩ := σ
  subst hns
  exact ⟨_, hP, rfl⟩

theorem complete (id : Nat) (n : Node) :
    Reads P depth ns (Compose.complete id n) () P (ns.setIfInBounds id n) := by
  intro σ hP _ hns _
  obtain ⟨⟩ := σ
  subst hns
  exact ⟨_, hP, rfl⟩

theorem beginNamed (n : Node) : Reads P depth ns (Compose.beginNamed none n) ns.size P (ns.push n) := by
  unfold Compose.beginNamed
  refine (pure ()).bind ((begin_ n).bind ?_)
  exact pure _

theorem inside {part : Compose α} (h : Reads P (depth + 1) ns part a Q ns') (hdepth : depth < depthLimit) :
    Reads P depth ns (Compose.inside part) a Q ns' := by
  intro σ hP hσ hns hnamed
  obtain ⟨lexer, hQ, hpart⟩ := h { σ with depth := σ.depth + 1 } hP (by rw [hσ]) hns hnamed
  refine ⟨lexer, hQ, ?_⟩
  have hlimit : ¬ depthLimit ≤ σ.depth := by omega
  unfold Compose.inside
  simp [hlimit, hpart]

/-- Neither a name nor a tag stands before a node. -/
theorem properties (ht : isProperty t = false) :
    Reads (Settled · t ts) depth ns Compose.properties (none, none) (Settled · t ts) ns := by
  unfold Compose.properties
  -- first a name is looked for, then a tag
  refine bind_of_same (a := none) ?name (bind_of_same (a := none) ?tag ?rest)
  case name =>
    refine peekAgain.bind ?_
    cases t <;> first | exact pure none | cases ht
  case tag =>
    refine peekAgain.bind ?_
    cases t <;> first | exact pure none | cases ht
  case rest => exact pure _

/-- A word is a scalar. -/
theorem scalar (w : Text) (block indentless : Bool) (n : Nat) :
    Reads (Streams · (.scalar w true :: ts)) depth ns (node block indentless (n + 1)) ns.size (Streams · ts)
      (ns.push (.scalar (Kind.ofPlain w) w)) := by
  unfold node
  refine peek.bind ((properties rfl).bind (peekAgain.bind (skip.bind ?_)))
  exact beginNamed _

/-- The node of a token at which it is not left out. -/
theorem nodeUnless {p : Token → Bool} {block indentless : Bool} {n : Nat} {id : Nat} (hp : p t = false)
    (h : Reads (Streams · (t :: ts)) depth ns (node block indentless n) id Q ns') :
    Reads (Streams · (t :: ts)) depth ns (Compose.nodeUnless p block indentless (n + 1)) id Q ns' := by
  have hnext : Reads (Streams · (t :: ts)) depth ns (nextIs p) false (Settled · t ts) ns := by
    unfold nextIs
    rw [← hp]
    exact peek.bind (pure _)
  unfold Compose.nodeUnless
  exact hnext.bind (h.weaken fun _ => Settled.streams)

/-! ### Lists -/

/-- A list without a name is completed by its items. -/
theorem sequence {items : Compose (List Nat)} {is : List Nat} (hdepth : depth < depthLimit)
    (h : Reads P (depth + 1) (ns.push (.list .list [])) items is Q ns') :
    Reads P depth ns (Compose.sequence none none items) ns.size Q
      (ns'.setIfInBounds ns.size (.list .list is)) := by
  unfold Compose.sequence
  exact (beginNamed _).bind ((h.inside hdepth).bind ((complete _ _).bind (pure _)))

theorem blockItems_nil (n : Nat) :
    Reads (Streams · (.blockEnd :: ts)) depth ns (blockItems (n + 1)) [] (Streams · ts) ns := by
  unfold blockItems
  exact peek.bind (skip.bind (pure []))

theorem blockItems_cons {n id : Nat} {is : List Nat} (ht : (isBlockEntry t || isBlockEnd t) = false)
    (hitem : Reads (Streams · (t :: ts)) depth ns (node true false n) id Q ns')
    (hrest : Reads Q depth ns' (blockItems (n + 1)) is R ns'') :
    Reads (Streams · (.blockEntry :: t :: ts)) depth ns (blockItems (n + 2)) (id :: is) R ns'' := by
  rw [blockItems]
  exact peek.bind (skip.bind ((nodeUnless ht hitem).bind (hrest.bind (pure _))))

/-- A list without a block of its own ends before a token that marks no item. -/
theorem indentlessItems_nil (ht : isBlockEntry t = false) (n : Nat) :
    Reads (Streams · (t :: ts)) depth ns (indentlessItems (n + 1)) [] (Streams · (t :: ts)) ns := by
  unfold indentlessItems
  refine peek.bind ?_
  cases t <;> first | exact (pure []).weaken fun _ => Settled.streams | cases ht

theorem indentlessItems_cons {n id : Nat} {is : List Nat}
    (ht : (isBlockEntry t || isBlockEnd t || isKeyOrValue t) = false)
    (hitem : Reads (Streams · (t :: ts)) depth ns (node true false n) id Q ns')
    (hrest : Reads Q depth ns' (indentlessItems (n + 1)) is R ns'') :
    Reads (Streams · (.blockEntry :: t :: ts)) depth ns (indentlessItems (n + 2)) (id :: is) R ns'' := by
  rw [indentlessItems]
  exact peek.bind (skip.bind ((nodeUnless ht hitem).bind (hrest.bind (pure _))))

/-- A list with a block of its own. -/
theorem node_blockItems {n : Nat} {is : List Nat} {indentless : Bool} (hdepth : depth < depthLimit)
    (h : Reads (Streams · ts) (depth + 1) (ns.push (.list .list [])) (blockItems n) is Q ns') :
    Reads (Streams · (.blockSequenceStart :: ts)) depth ns (node true indentless (n + 1)) ns.size Q
      (ns'.setIfInBounds ns.size (.list .list is)) := by
  unfold node
  refine peek.bind ((properties rfl).bind (peekAgain.bind ?_))
  cases indentless <;> exact skip.bind (h.sequence hdepth)

/-- A list without one. -/
theorem node_indentlessItems {n : Nat} {is : List Nat} (hdepth : depth < depthLimit)
    (h : Reads (Streams · (.blockEntry :: ts)) (depth + 1) (ns.push (.list .list [])) (indentlessItems n) is Q
      ns') :
    Reads (Streams · (.blockEntry :: ts)) depth ns (node true true (n + 1)) ns.size Q
      (ns'.setIfInBounds ns.size (.list .list is)) := by
  unfold node
  refine peek.bind ((properties rfl).bind (peekAgain.bind ?_))
  exact (h.sequence hdepth).weaken fun _ => Settled.streams

/-! ### Mappings -/

/-- A mapping without a name is completed by its entries. -/
theorem mapping {entries : Compose (List (Nat × Nat))} {es : List (Nat × Nat)} (hdepth : depth < depthLimit)
    (h : Reads P (depth + 1) (ns.push (.map .map [])) entries es Q ns') :
    Reads P depth ns (Compose.mapping none none entries) ns.size Q
      (ns'.setIfInBounds ns.size (.map .map es)) := by
  unfold Compose.mapping
  exact (beginNamed _).bind ((h.inside hdepth).bind ((complete _ _).bind (pure _)))

theorem blockPairs_nil (n : Nat) :
    Reads (Streams · (.blockEnd :: ts)) depth ns (blockPairs (n + 1)) [] (Streams · ts) ns := by
  unfold blockPairs
  exact peek.bind (skip.bind (pure []))

theorem valuePart {n id : Nat} (ht : (isKeyOrValue t || isBlockEnd t) = false)
    (hvalue : Reads (Streams · (t :: ts)) depth ns (node true true n) id Q ns') :
    Reads (Streams · (.value :: t :: ts)) depth ns
      (Compose.valuePart (fun t => isKeyOrValue t || isBlockEnd t) true (n + 2)) id Q ns' := by
  have hnext : Reads (Streams · (.value :: t :: ts)) depth ns (nextIs isValue) true
    (Settled · .value (t :: ts))
      ns := by
    unfold nextIs
    exact peek.bind (pure _)
  unfold Compose.valuePart
  exact hnext.bind (skip.bind (nodeUnless ht hvalue))

/-- An entry whose key is a word. -/
theorem blockPairs_cons {w : Text} {n id : Nat} {es : List (Nat × Nat)}
    (ht : (isKeyOrValue t || isBlockEnd t) = false)
    (hvalue : Reads (Streams · (t :: ts)) depth (ns.push (.scalar (Kind.ofPlain w) w)) (node true true n) id
      Q ns')
    (hrest : Reads Q depth ns' (blockPairs (n + 2)) es R ns'') :
    Reads (Streams · (.key :: .scalar w true :: .value :: t :: ts)) depth ns (blockPairs (n + 3))
      ((ns.size, id) :: es) R ns'' := by
  rw [blockPairs]
  refine peek.bind (skip.bind ((nodeUnless rfl (scalar w true true n)).bind ?_))
  exact (valuePart ht hvalue).bind (hrest.bind (pure _))

/-- A mapping in a block. -/
theorem node_blockPairs {n : Nat} {es : List (Nat × Nat)} {indentless : Bool} (hdepth : depth < depthLimit)
    (h : Reads (Streams · ts) (depth + 1) (ns.push (.map .map [])) (blockPairs n) es Q ns') :
    Reads (Streams · (.blockMappingStart :: ts)) depth ns (node true indentless (n + 1)) ns.size Q
      (ns'.setIfInBounds ns.size (.map .map es)) := by
  unfold node
  refine peek.bind ((properties rfl).bind (peekAgain.bind ?_))
  cases indentless <;> exact skip.bind (h.mapping hdepth)

/-! ### Documents -/

theorem finish (n : Nat) :
    Reads (Streams · [.finish]) depth ns (Compose.finish (n + 1)) () (fun _ => True) ns := by
  have hends : Reads (Streams · [.finish]) depth ns (documentEnds (n + 1)) () (Settled · .finish []) ns := by
    unfold documentEnds
    exact peek.bind (pure ())
  unfold Compose.finish
  exact hends.bind (peekAgain.bind ((pure ()).weaken fun _ _ => trivial))

/-- A document that is a list in a block. -/
theorem document {n root : Nat}
    (h : Reads (Streams · (.blockSequenceStart :: ts)) depth ns (node true false (n + 1)) root
      (Streams · [.finish]) ns') :
    Reads (Streams · (.blockSequenceStart :: ts)) depth ns (Compose.document (n + 1)) (some root)
      (fun _ => True) ns' := by
  unfold Compose.document
  exact peek.bind ((h.weaken fun _ => Settled.streams).bind ((finish n).bind (pure _)))

end Reads

end Compose

/-! ### The layout of words -/

section Layout

/-- The nodes of a layout of words; the outermost list comes first. -/
def layoutNodes (a b c d v w x : Text) : Array Node :=
  #[.list .list [1], .map .map [(2, 3), (4, 5), (6, 7)],
    .scalar (Kind.ofPlain a) a, .scalar (Kind.ofPlain v) v, .scalar (Kind.ofPlain b) b,
    .scalar (Kind.ofPlain w) w, .scalar (Kind.ofPlain c) c, .list .list [8],
    .map .map [(9, 10)], .scalar (Kind.ofPlain d) d, .scalar (Kind.ofPlain x) x]

variable {a b c d v w x : Text}

open Compose in
/-- The tokens of the layout are read as its nodes. -/
theorem reads_layoutTokens (n : Nat) : Reads (Streams · (layoutTokens a b c d v w x)) 0 #[]
    (Compose.document (n + 20)) (some 0) (fun _ => True) (layoutNodes a b c d v w x) := by
  have hlimit : 3 < depthLimit := by decide
  -- each part is read whatever the nodes before it and the tokens after it are
  have helement : ∀ ns ts, Reads (Streams · (.blockMappingStart :: .key :: .scalar d true :: .value ::
      .scalar x true :: .blockEnd :: ts)) 3 ns (node true false (n + 8)) ns.size (Streams · ts) _ :=
    fun ns ts => Reads.node_blockPairs (by omega) (Reads.blockPairs_cons rfl (Reads.scalar x true true _)
      (Reads.blockPairs_nil _))
  have hpattern : ∀ ns ts, Reads (Streams · (.blockEntry :: .blockMappingStart :: .key :: .scalar d true ::
      .value :: .scalar x true :: .blockEnd :: .blockEnd :: ts)) 2 ns (node true true (n + 11)) ns.size
      (Streams · (.blockEnd :: ts)) _ := fun ns ts =>
    Reads.node_indentlessItems (by omega) (Reads.indentlessItems_cons rfl (helement _ _)
      (Reads.indentlessItems_nil rfl _))
  have hrule : ∀ ns ts, Reads
      (Streams · (.blockMappingStart :: .key :: .scalar a true :: .value :: .scalar v true ::
      .key :: .scalar b true :: .value :: .scalar w true :: .key :: .scalar c true :: .value :: .blockEntry ::
      .blockMappingStart :: .key :: .scalar d true :: .value :: .scalar x true :: .blockEnd :: .blockEnd ::
      ts)) 1 ns
      (node true false (n + 17)) ns.size (Streams · ts) _ := fun ns ts =>
    Reads.node_blockPairs (by omega) (Reads.blockPairs_cons rfl (Reads.scalar v true true _)
      (Reads.blockPairs_cons rfl (Reads.scalar w true true _)
        (Reads.blockPairs_cons rfl (hpattern _ _) (Reads.blockPairs_nil _))))
  have hroot : Reads (Streams · (layoutTokens a b c d v w x)) 0 #[] (node true false (n + 20)) 0
      (Streams · [.finish]) _ :=
    Reads.node_blockItems (by omega) (Reads.blockItems_cons rfl (hrule _ _) (Reads.blockItems_nil _))
  refine (Reads.document hroot).of_eq rfl ?_
  simp [layoutNodes]

/-- All characters of the layout may stand in a document. -/
theorem layout_isAllowed (ha : IsWord a) (hb : IsWord b) (hc : IsWord c) (hd : IsWord d) (hv : IsWord v)
    (hw : IsWord w) (hx : IsWord x) : (layout a b c d v w x).all isAllowed = true := by
  have hword : ∀ {t}, IsWord t → t.all isAllowed = true := fun ht =>
    List.all_eq_true.mpr fun e he => isAllowed_of_isAsciiLetter (ht.letters e he)
  have hmarks : isAllowed '-' = true ∧ isAllowed ' ' = true ∧ isAllowed ':' = true ∧
      isAllowed '\n' = true := by
    decide
  simp only [layout, List.all_append, List.all_cons, List.all_nil, List.all_replicate, hword ha, hword hb,
    hword hc, hword hd, hword hv, hword hw, hword hx, hmarks]
  rfl

/-- The document in the layout. -/
theorem ofText?_layout (ha : IsKey a) (hb : IsKey b) (hc : IsKey c) (hd : IsKey d) (hv : IsWord v)
    (hw : IsWord w) (hx : IsWord x) :
    Document.ofText? (layout a b c d v w x) = .ok (some ⟨0, layoutNodes a b c d v w x⟩) := by
  have hlexer : Lexer.ofText (layout a b c d v w x) = .ok { cursor := { rest := layout a b c d v w x } } := by
    unfold Lexer.ofText
    rw [layout_isAllowed ha.toIsWord hb.toIsWord hc.toIsWord hd.toIsWord hv hw hx]
    rfl
  have hstreams := streams_layout ha hb hc hd hv hw hx
  obtain ⟨n, hn⟩ : ∃ n, 16 * (layout a b c d v w x).length + 16 = n + 20 :=
    ⟨16 * (layout a b c d v w x).length - 4, by simp [layout]; omega⟩
  obtain ⟨lexer, -, hread⟩ := reads_layoutTokens n
    { lexer := { cursor := { rest := layout a b c d v w x } }, handles := Compose.standardHandles }
    hstreams rfl rfl rfl
  rw [← hn] at hread
  exact bind_ok_iff.mpr ⟨_, hlexer, bind_ok_iff.mpr ⟨_, hread, rfl⟩⟩

end Layout

end Copyedit.Yaml
