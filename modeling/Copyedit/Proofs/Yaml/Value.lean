import Copyedit.Proofs.Yaml.Kind
import Copyedit.Proofs.Yaml.Node
import Copyedit.Yaml.Value
import Mathlib.Data.List.TakeDrop
import Mathlib.Data.List.TakeWhile

/-!
# The value of a layout

`Runs` says how a part of making values changes what has been made so far.  A scalar is made at once, and
a list or a mapping is filled when its turn comes (`Runs.fill_list`, `Runs.fill_map`); where no key is a
mark there is nothing to merge (`Runs.merged`).  Main statement: the value of a layout of words is a list
of one mapping that holds such a list again, and each word stands for what its kind makes of it
(`value_layoutNodes`, `valueOfText_layout`).
-/

namespace Copyedit.Yaml

namespace Build

/-! ### Runs -/

/-- A part of making values goes from one state to another and gives `a`. -/
def Runs {α : Type} (part : Build α) (σ : Builder) (a : α) (σ' : Builder) : Prop := part.run σ = .ok (a, σ')

namespace Runs

variable {α β : Type} {σ σ' σ'' : Builder} {a : α} {b : β}

theorem pure (a : α) (σ : Builder) : Runs (pure a : Build α) σ a σ := rfl

theorem bind {part : Build α} {next : α → Build β} (h : Runs part σ a σ') (hnext : Runs (next a) σ' b σ'') :
    Runs (part >>= next) σ b σ'' := by
  unfold Runs at *
  rw [StateT.run_bind, h]
  exact hnext

theorem get (σ : Builder) : Runs (get : Build Builder) σ σ σ := rfl

theorem modify (f : Builder → Builder) (σ : Builder) : Runs (modify f : Build Unit) σ () (f σ) := rfl

/-- Steps that change nothing, one for each item. -/
theorem mapM {f : α → Build β} {g : α → β} {items : List α} (h : ∀ i ∈ items, Runs (f i) σ (g i) σ) :
    Runs (items.mapM f) σ (items.map g) σ := by
  induction items with
  | nil =>
    rw [List.mapM_nil]
    exact pure [] σ
  | cons i rest ih =>
    obtain ⟨hi, hrest⟩ := List.forall_mem_cons.mp h
    rw [List.mapM_cons]
    exact hi.bind ((ih hrest).bind (pure _ _))

theorem forIn_unit {f : α → PUnit → Build (ForInStep PUnit)} {items : List α}
    (h : ∀ i ∈ items, Runs (f i ⟨⟩) σ (.yield ⟨⟩) σ) : Runs (forIn items PUnit.unit f) σ ⟨⟩ σ := by
  induction items with
  | nil =>
    rw [List.forIn_nil]
    exact pure _ σ
  | cons i rest ih =>
    obtain ⟨hi, hrest⟩ := List.forall_mem_cons.mp h
    rw [List.forIn_cons]
    exact hi.bind (ih hrest)

section Parts

variable {N : Array Node} {made : List (Nat × Made)} {waiting : List Nat} {id : Nat} {k : Kind} {t : Text}
  {v : Value} {n : Node}

theorem nodeAt (h : N[id]? = some n) : Runs (nodeAt id) ⟨N, made, waiting⟩ n ⟨N, made, waiting⟩ := by
  unfold Build.nodeAt
  refine (get _).bind ?_
  simp only [h]
  exact pure _ _

theorem kindAt (h : N[id]? = some n) : Runs (kindAt id) ⟨N, made, waiting⟩ n.kind ⟨N, made, waiting⟩ :=
  (nodeAt h).bind (pure _ _)

theorem entriesAt {es : List (Nat × Nat)} (h : N[id]? = some (.map k es)) :
    Runs (entriesAt id) ⟨N, made, waiting⟩ es ⟨N, made, waiting⟩ :=
  (nodeAt h).bind (pure _ _)

/-- The entries of a mapping are replaced by themselves. -/
theorem setEntries {es : List (Nat × Nat)} (h : N[id]? = some (.map k es)) :
    Runs (setEntries id es) ⟨N, made, waiting⟩ () ⟨N, made, waiting⟩ := by
  have hsame : N.setIfInBounds id (.map k es) = N := by
    obtain ⟨hid, hget⟩ := Array.getElem?_eq_some_iff.mp h
    refine Array.ext (by simp) fun i hi hi' => ?_
    rw [Array.getElem_setIfInBounds hi']
    split
    · rename_i heq
      subst heq
      exact hget.symm
    · rfl
  have hset : Runs (setNode id (.map k es)) ⟨N, made, waiting⟩ () ⟨N, made, waiting⟩ := by
    have hmodify :=
      modify (fun s => { s with nodes := s.nodes.setIfInBounds id (.map k es) }) ⟨N, made, waiting⟩
    rwa [hsame] at hmodify
  exact (kindAt h).bind hset

theorem scalar (h : N[id]? = some (.scalar k t)) (hv : IsScalarOf k t v) :
    Runs (scalar id k) ⟨N, made, waiting⟩ v ⟨N, made, waiting⟩ := by
  have hmark : [Kind.merge, .default, .unknown].contains k = false := by simpa using hv.notMem
  have htext : Runs (textAt N.size id) ⟨N, made, waiting⟩ t ⟨N, made, waiting⟩ := by
    obtain ⟨hid, -⟩ := Array.getElem?_eq_some_iff.mp h
    obtain ⟨size, hsize⟩ := Nat.exists_eq_add_one_of_ne_zero (Nat.ne_of_gt (Nat.zero_lt_of_lt hid))
    rw [hsize]
    exact (nodeAt h).bind (pure _ _)
  have hvalue : Runs (scalarValue k t : Build Value) ⟨N, made, waiting⟩ v ⟨N, made, waiting⟩ := by
    rw [hv.value_eq]
    rfl
  unfold Build.scalar
  simp only [hmark]
  refine (get _).bind (htext.bind ((nodeAt h).bind ?_))
  cases k <;> exact hvalue

/-- A scalar is made at once. -/
theorem make_scalar (h : N[id]? = some (.scalar k t)) (hv : IsScalarOf k t v) (hnew : made.lookup id = none) :
    Runs (make id) ⟨N, made, waiting⟩ (some v) ⟨N, (id, .scalar v) :: made, waiting⟩ := by
  unfold make
  refine (get _).bind ?_
  simp only [hnew]
  refine (kindAt h).bind ?_
  simp only [Node.kind, hv.empty?_eq]
  exact (scalar h hv).bind ((modify _ _).bind (pure _ _))

/-- A list or a mapping is filled later. -/
theorem make_empty {m : Made} (h : N[id]? = some n) (hempty : Made.empty? n.kind = some m)
    (hnew : made.lookup id = none) :
    Runs (make id) ⟨N, made, waiting⟩ none ⟨N, (id, m) :: made, waiting ++ [id]⟩ := by
  unfold make
  refine (get _).bind ?_
  simp only [hnew]
  refine (kindAt h).bind ?_
  simp only [hempty]
  exact (modify _ _).bind ((modify _ _).bind (pure _ _))

/-! ### Mappings -/

/-- A mapping whose keys are texts has nothing to merge. -/
theorem merged {es : List (Nat × Nat)} (h : N[id]? = some (.map k es))
    (hkeys : ∀ e ∈ es, ∃ t, N[e.1]? = some (.scalar .text t)) (n : Nat) :
    Runs (merged (n + 2) id) ⟨N, made, waiting⟩ es ⟨N, made, waiting⟩ := by
  have hkinds : ∀ e ∈ es, Runs (Build.kindAt e.1) ⟨N, made, waiting⟩ Kind.text ⟨N, made, waiting⟩ := by
    intro e he
    obtain ⟨t, ht⟩ := hkeys e he
    exact kindAt ht
  have htake : Runs (takeMerge id) ⟨N, made, waiting⟩ none ⟨N, made, waiting⟩ := by
    unfold takeMerge
    refine (entriesAt h).bind ((mapM hkinds).bind ?_)
    have hnone : (es.zip (es.map fun _ => Kind.text)).dropWhile (·.2 ≠ .merge) = [] := by
      rw [List.dropWhile_eq_nil_iff]
      intro e he
      have hkind := (List.of_mem_zip he).2
      rw [List.mem_map] at hkind
      obtain ⟨-, -, hkind⟩ := hkind
      rw [← hkind]
      decide
    rw [List.span_eq_takeWhile_dropWhile, hnone]
    exact pure _ _
  have hplain : Runs (plainKeys id) ⟨N, made, waiting⟩ () ⟨N, made, waiting⟩ := by
    unfold plainKeys
    refine (entriesAt h).bind (Runs.bind (forIn_unit fun e he => ?_) (pure _ _))
    obtain ⟨t, ht⟩ := hkeys e he
    exact (nodeAt ht).bind (pure _ _)
  have htaken : Runs (takenIn (n + 1) id) ⟨N, made, waiting⟩ [] ⟨N, made, waiting⟩ := by
    unfold takenIn
    exact htake.bind (pure _ _)
  unfold Build.merged
  exact htaken.bind (hplain.bind ((entriesAt h).bind ((setEntries h).bind (pure _ _))))

/-- An entry is put behind those before it, and its value is made. -/
theorem putAll_cons {σ σ' σ'' σ''' : Builder} {entries entries' : List (Value × Nat)} {key value : Nat}
    {rest : List (Nat × Nat)} {o : Option Value} (hkey : Runs (make key) σ (some v) σ')
    (hvalue : Runs (make value) σ' o σ'')
    (hrest : Runs (putAll (Value.put entries v value) rest) σ'' entries' σ''') :
    Runs (putAll entries ((key, value) :: rest)) σ entries' σ''' :=
  hkey.bind (hvalue.bind hrest)

/-- A mapping is filled with its entries. -/
theorem fill_map {es : List (Nat × Nat)} {entries : List (Value × Nat)} {made' : List (Nat × Made)}
    {waiting' : List Nat} (h : N[id]? = some (.map .map es))
    (hkeys : ∀ e ∈ es, ∃ t, N[e.1]? = some (.scalar .text t))
    (hput : Runs (putAll [] es) ⟨N, made, waiting⟩ entries ⟨N, made', waiting'⟩) :
    Runs (fill id) ⟨N, made, waiting⟩ () ⟨N, (id, .map entries) :: made', waiting'⟩ := by
  have hentries : Runs (Build.entries id) ⟨N, made, waiting⟩ entries ⟨N, made', waiting'⟩ := by
    unfold Build.entries
    exact (get _).bind ((merged h hkeys _).bind hput)
  unfold fill
  exact (nodeAt h).bind (hentries.bind (modify _ _))

/-- A list of one item is filled with it. -/
theorem fill_list {item : Nat} {o : Option Value} {made' : List (Nat × Made)} {waiting' : List Nat}
    (h : N[id]? = some (.list .list [item]))
    (hmake : Runs (make item) ⟨N, made, waiting⟩ o ⟨N, made', waiting'⟩) :
    Runs (fill id) ⟨N, made, waiting⟩ () ⟨N, (id, .list [item]) :: made', waiting'⟩ := by
  have hitems : Runs (Build.items (.list .list [item])) ⟨N, made, waiting⟩ [item] ⟨N, made', waiting'⟩ := by
    have hloop : Runs (forIn [item] PUnit.unit fun item _ => do
        let _ ← make item
        Pure.pure (ForInStep.yield PUnit.unit)) ⟨N, made, waiting⟩ ⟨⟩ ⟨N, made', waiting'⟩ := by
      have hstep : Runs (do
          let _ ← make item
          Pure.pure (ForInStep.yield PUnit.unit)) ⟨N, made, waiting⟩ (.yield ⟨⟩) ⟨N, made', waiting'⟩ :=
        hmake.bind (pure _ _)
      rw [List.forIn_cons]
      exact hstep.bind (pure _ _)
    exact hloop.bind (pure _ _)
  unfold fill
  exact (nodeAt h).bind (hitems.bind (modify _ _))

theorem fillAll_nil (n : Nat) : Runs (fillAll n) ⟨N, made, []⟩ () ⟨N, made, []⟩ := by
  cases n <;> exact pure _ _

theorem fillAll_cons {n : Nat} {σ σ' : Builder} (hfill : Runs (fill id) ⟨N, made, waiting⟩ () σ)
    (hrest : Runs (fillAll n) σ () σ') : Runs (fillAll (n + 1)) ⟨N, made, id :: waiting⟩ () σ' := by
  unfold fillAll
  exact (get _).bind ((modify _ _).bind (hfill.bind hrest))

end Parts

end Runs

end Build

/-! ### The layout of words -/

section Layout

variable {a b c d v w x : Text} {yv yw yx : Value}

open Build in
/-- The value of the layout: keys stand for their texts, and the other words for what their kinds make of
them. -/
theorem value_layoutNodes (ha : Kind.ofPlain a = .text) (hb : Kind.ofPlain b = .text)
    (hc : Kind.ofPlain c = .text) (hd : Kind.ofPlain d = .text) (hab : a ≠ b) (hac : a ≠ c) (hbc : b ≠ c)
    (hv : IsScalarOf (Kind.ofPlain v) v yv) (hw : IsScalarOf (Kind.ofPlain w) w yw)
    (hx : IsScalarOf (Kind.ofPlain x) x yx) :
    Document.value ⟨0, layoutNodes a b c d v w x⟩ = .ok (.list [.map [(.text (String.ofList a), yv),
      (.text (String.ofList b), yw),
      (.text (String.ofList c), .list [.map [(.text (String.ofList d), yx)]])]]) := by
  have htext : ∀ t, IsScalarOf .text t (.text (String.ofList t)) := fun t => ⟨rfl, by decide, rfl⟩
  unfold layoutNodes
  rw [ha, hb, hc, hd]
  generalize Kind.ofPlain v = kv at *
  generalize Kind.ofPlain w = kw at *
  generalize Kind.ofPlain x = kx at *
  generalize hN : (#[.list .list [1], .map .map [(2, 3), (4, 5), (6, 7)], .scalar .text a, .scalar kv v,
    .scalar .text b, .scalar kw w, .scalar .text c, .list .list [8], .map .map [(9, 10)], .scalar .text d,
    .scalar kx x] : Array Node) = N
  have hsize : N.size = 11 := by rw [← hN]; rfl
  have hget := fun id : Nat => congrArg (·[id]?) hN.symm
  have hkeys₁ : ∀ e ∈ [(2, 3), (4, 5), (6, 7)], ∃ t, N[e.1]? = some (.scalar .text t) := by
    rw [← hN]
    simp
  have hkeys₈ : ∀ e ∈ [(9, 10)], ∃ t, N[e.1]? = some (.scalar .text t) := by
    rw [← hN]
    simp
  have hput : Value.put (Value.put (Value.put [] (.text (String.ofList a)) 3) (.text (String.ofList b)) 5)
      (.text (String.ofList c)) 7 =
      [(.text (String.ofList a), 3), (.text (String.ofList b), 5), (.text (String.ofList c), 7)] := by
    simp [Value.put, Value.sameKey, String.ofList_inj, hab, hac, hbc]
  -- the nodes are filled from the outside to the inside
  obtain ⟨made, hfills, hread⟩ : ∃ made, Runs (fillAll 11) ⟨N, [(0, .list [])], [0]⟩ () ⟨N, made, []⟩ ∧
      ((valueAt made 20 [] 0).run []).1.1 = .list [.map [(.text (String.ofList a), yv),
        (.text (String.ofList b), yw),
        (.text (String.ofList c), .list [.map [(.text (String.ofList d), yx)]])]] := by
    refine ⟨_, Runs.fillAll_cons (Runs.fill_list (hget 0) (Runs.make_empty (hget 1) rfl rfl))
      (Runs.fillAll_cons (Runs.fill_map (hget 1) hkeys₁
        (Runs.putAll_cons (Runs.make_scalar (hget 2) (htext a) rfl) (Runs.make_scalar (hget 3) hv rfl)
        (Runs.putAll_cons (Runs.make_scalar (hget 4) (htext b) rfl) (Runs.make_scalar (hget 5) hw rfl)
        (Runs.putAll_cons (Runs.make_scalar (hget 6) (htext c) rfl) (Runs.make_empty (hget 7) rfl rfl)
        (Runs.pure _ _)))))
      (Runs.fillAll_cons (Runs.fill_list (hget 7) (Runs.make_empty (hget 8) rfl rfl))
      (Runs.fillAll_cons (Runs.fill_map (hget 8) hkeys₈
        (Runs.putAll_cons (Runs.make_scalar (hget 9) (htext d) rfl) (Runs.make_scalar (hget 10) hx rfl)
        (Runs.pure _ _)))
      (Runs.fillAll_nil _)))), ?_⟩
    rw [hput]
    rfl
  have hall : Runs (makeAll 0) ⟨N, [], []⟩ () ⟨N, made, []⟩ := by
    have hmake : Runs (make 0) ⟨N, [], []⟩ none ⟨N, [(0, .list [])], [0]⟩ := Runs.make_empty (hget 0) rfl rfl
    refine hmake.bind ((Runs.get _).bind ?_)
    rw [hsize]
    exact hfills
  unfold Document.value
  simp only [hsize]
  rw [hall]
  exact congrArg Except.ok hread

/-- The value of the text of the layout. -/
theorem valueOfText_layout (ha : IsKey a) (hb : IsKey b) (hc : IsKey c) (hd : IsKey d) (hv : IsWord v)
    (hw : IsWord w) (hx : IsWord x)
    (hvalue : Document.value ⟨0, layoutNodes a b c d v w x⟩ = .ok yv) :
    valueOfText (layout a b c d v w x) = .ok yv :=
  bind_ok_iff.mpr ⟨_, ofText?_layout ha hb hc hd hv hw hx, hvalue⟩

end Layout

end Copyedit.Yaml
