import Copyedit.Proofs.Pattern.Expansion
import Copyedit.Proofs.Pattern.RuleFile
import Copyedit.Proofs.TextFile
import Copyedit.Proofs.Yaml.Value

/-!
# Words in rule files

An element demands what stands under its key for a token, as it is shown (`Element.token_of_ofValue`).  A
word that is written there plainly is a value before it is shown, and some words are truth values or
nothing.  So an element demands what the word means, which is the word itself unless it is one of 19
(`Rule.load_word`), whatever reads the values.  That the rules are made is shown for a file in block style
with nothing but an identifier, a message and the word (`Rule.ruleText`, `Rule.loadWith_ruleText`).
-/

namespace Copyedit

namespace Pattern

/-! ### Elements -/

theorem Constraint.demand_of_make {what : String} {d : Demand} {c : Constraint} (h : make what d = .ok c) :
    c.demand = d := by
  have htag {wording : Option Wording}
      (h : (TagForm.make d.tag >>= fun tag => pure (⟨d, wording, tag⟩ : Constraint)) = .ok c) :
      c.demand = d := by
    obtain ⟨tag, -, h⟩ := bind_ok_iff.mp h
    rw [← Except.ok.inj h]
  unfold make at h
  dsimp only at h
  split at h
  · cases h
  · split at h
    · exact htag h
    · obtain ⟨wording, -, h⟩ := bind_ok_iff.mp h
      exact htag h

theorem Element.demand_of_make {d : Demand} {least most : Value} {exceptions : List Exception} {e : Element}
    (h : make d least most exceptions = .ok e) : e.constraint.demand = d := by
  unfold make at h
  dsimp only at h
  obtain ⟨_, -, h⟩ := bind_ok_iff.mp h
  split at h
  · cases h
  obtain ⟨_, -, h⟩ := bind_ok_iff.mp h
  split at h
  · cases h
  split at h
  · cases h
  obtain ⟨c, hc, h⟩ := bind_ok_iff.mp h
  rw [← Except.ok.inj h]
  exact Constraint.demand_of_make hc

theorem token_of_demandOf {entries : List (Value × Value)} {d : Demand} (h : demandOf entries = .ok d) :
    d.token = (Value.get? entries "token").map (·.shown.toList) := by
  obtain ⟨token, htoken, h⟩ := bind_ok_iff.mp h
  obtain rfl := Except.ok.inj h
  cases hget : Value.get? entries "token" with
  | none =>
    rw [hget] at htoken
    obtain rfl := Except.ok.inj htoken
    rfl
  | some v =>
    rw [hget] at htoken
    obtain ⟨text, htext, rfl⟩ := map_ok_iff.mp htoken
    rw [Value.text?_ok htext]
    rfl

theorem eq_of_entriesOf {place : Option Place} {v : Value} {entries entries' : List (Value × Value)}
    (hv : v.bare = .map entries) (h : entriesOf place v = .ok entries') : entries' = entries :=
  Value.map.inj ((bare_of_entriesOf h).symm.trans hv)

/-- An element demands what stands under its key for a token, as it is shown. -/
theorem Element.token_of_ofValue {place : Place} {v : Value} {entries : List (Value × Value)} {e : Element}
    (hv : v.bare = .map entries) (h : ofValue place v = .ok e) :
    e.constraint.demand.token = (Value.get? entries "token").map (·.shown.toList) := by
  unfold ofValue at h
  obtain ⟨entries', hentries, h⟩ := bind_ok_iff.mp h
  obtain rfl := eq_of_entriesOf hv hentries
  split at h
  · cases h
  · obtain ⟨_, -, h⟩ := bind_ok_iff.mp h
    obtain ⟨d, hd, h⟩ := bind_ok_iff.mp h
    obtain ⟨exceptions, -, h⟩ := bind_ok_iff.mp h
    rw [Element.demand_of_make h, token_of_demandOf hd, Value.get?_without (by decide)]

theorem Element.make_literal {m : Text} (hm : m ≠ []) :
    make { token := some m } (.int 1) (.int 1) [] = .ok (Rule.literal m) := by
  obtain ⟨c, m, rfl⟩ := List.exists_cons_of_ne_nil hm
  with_unfolding_all rfl

/-- An element whose only key is the one for a token. -/
theorem Element.ofValue_token {place : Place} {x : Value} {m : Text} (hx : x.text? = .ok (String.ofList m))
    (hm : m ≠ []) : ofValue place (.map [(.text "token", x)]) = .ok (Rule.literal m) := by
  have htoken : (Value.get? [(.text "token", x)] "token").mapM Value.text? = .ok (some (String.ofList m)) :=
    map_ok_iff.mpr ⟨_, hx, rfl⟩
  have hdemand : demandOf [(.text "token", x)] = .ok { token := some m } := by
    refine bind_ok_iff.mpr ⟨_, htoken, ?_⟩
    rw [Option.map_some, String.toList_ofList]
    rfl
  refine bind_ok_iff.mpr ⟨_, rfl, ?_⟩
  exact bind_ok_iff.mpr ⟨(), rfl, bind_ok_iff.mpr ⟨_, hdemand, bind_ok_iff.mpr ⟨[], rfl, make_literal hm⟩⟩⟩

namespace Rule

/-! ### Definitions -/

/-- The elements of a rule are those of its definition. -/
theorem elements_of_ofValue {v : Value} {locale : Option Locale} {r : Rule} {entries : List (Value × Value)}
    (hv : v.bare = .map entries) (h : ofValue v locale = .ok r) :
    ∃ place, elementsOf place (Value.get? entries "pattern") = .ok r.elements := by
  rw [ofValue_eq] at h
  obtain ⟨entries', hentries, h⟩ := bind_ok_iff.mp h
  obtain rfl := eq_of_entriesOf hv hentries
  obtain ⟨id?, -, h⟩ := bind_ok_iff.mp h
  dsimp only at h
  obtain ⟨_, -, h⟩ := bind_ok_iff.mp h
  obtain ⟨_, -, h⟩ := bind_ok_iff.mp h
  obtain ⟨elements, helements, h⟩ := bind_ok_iff.mp h
  obtain ⟨conversion, -, h⟩ := bind_ok_iff.mp h
  have hmade := isMadeFrom_of_make (ok_of_atPlace h)
  have hsame : r.elements = elements := by rw [hmade.rule_eq]; rfl
  exact ⟨_, hsame ▸ helements⟩

/-- A value defines one rule of one element, and `x` stands there under the key for a token. -/
def DefinesToken (v x : Value) : Prop :=
  ∃ definition entries element parts, definitionsOf? v = some [definition] ∧ definition.bare = .map entries ∧
    (Value.get? entries "pattern").map Value.bare = some (.list [element]) ∧ element.bare = .map parts ∧
    Value.get? parts "token" = some x

/-- The rules have one element, which demands a text. -/
def Demands (rules : List Rule) (t : Text) : Prop :=
  ∃ r e, rules = [r] ∧ r.elements = [e] ∧ e.constraint.demand.token = some t

theorem demands_of_definesToken {v x : Value} {locale : Option Locale} {rules : List Rule}
    (hv : DefinesToken v x) (h : listOfValue v locale = .ok rules) : Demands rules x.shown.toList := by
  obtain ⟨definition, entries, element, parts, hdefinitions, hentries, hpattern, hparts, hx⟩ := hv
  obtain ⟨definitions, locale', hdefinitions', -, hread⟩ := (areRulesOf_of_listOfValue h).read
  obtain rfl := Option.some.inj (hdefinitions'.symm.trans hdefinitions)
  -- there is one definition, so there is one rule, and one item in its pattern, so it has one element
  cases hread with
  | cons hr hnil =>
    cases hnil
    rename_i r
    obtain ⟨place, helements⟩ := elements_of_ofValue hentries hr.read
    unfold elementsOf at helements
    rw [hpattern] at helements
    generalize hsame : r.elements = elements at helements
    cases mapM_ok_iff.mp helements with
    | cons he hnil =>
      cases hnil
      rename_i e
      have htoken := Element.token_of_ofValue hparts he
      rw [hx] at htoken
      exact ⟨r, e, rfl, hsame, htoken⟩

/-- The value of a definition with nothing but an identifier, a message and a token. -/
def plainDefinition (id message token : Value) : Value :=
  .map [(.text "id", id), (.text "message", message),
    (.text "pattern", .list [.map [(.text "token", token)]])]

/-- The rule that is defined so. -/
def plainRule (id message token : Text) (locale : Locale) : Rule where
  id := String.ofList id
  elements := [literal token]
  message := message
  source := .null
  conversion := .keep
  sample := none
  sampleSource := .null
  suggestions := []
  caseSensitive := .bool false
  shortMessage := .text ""
  description := .text ""
  locale := locale

theorem definesToken_plainDefinition (id message token : Value) :
    DefinesToken (.list [plainDefinition id message token]) token :=
  ⟨_, _, _, _, rfl, rfl, rfl, rfl, rfl⟩

theorem ofValue_plainDefinition {y x : Value} {id message token : Text}
    (hid : y.text? = .ok (String.ofList id)) (hidNe : id ≠ []) (hmessage : references message = [])
    (hx : x.text? = .ok (String.ofList token)) (hne : token ≠ []) (locale : Option Locale) :
    ofValue (plainDefinition y (.text (String.ofList message)) x) locale =
      .ok (plainRule id message token (locale.getD .english)) := by
  have hidText : (some y).mapM Value.text? = .ok (some (String.ofList id)) := map_ok_iff.mpr ⟨_, hid, rfl⟩
  have helements : ∀ place, elementsOf place (some (.list [.map [(.text "token", x)]])) =
      .ok [literal token] :=
    fun place => mapM_ok_iff.mpr (.cons (Element.ofValue_token hx hne) .nil)
  have hmake : make (definitionOf [(.text "id", y), (.text "message", .text (String.ofList message)),
      (.text "pattern", .list [.map [(.text "token", x)]])] (String.ofList id) [literal token] .keep locale) =
      .ok (plainRule id message token (locale.getD .english)) := by
    have hidEmpty : (String.ofList id).isEmpty = false := by simpa using hidNe
    have htexts : references (String.ofList message).toList = [] := by rwa [String.toList_ofList]
    refine (make_plain hidEmpty rfl htexts).trans ?_
    rw [String.toList_ofList]
    rfl
  rw [ofValue_eq]
  refine bind_ok_iff.mpr ⟨_, rfl, bind_ok_iff.mpr ⟨_, hidText, ?_⟩⟩
  refine bind_ok_iff.mpr ⟨(), rfl, bind_ok_iff.mpr ⟨(), rfl, ?_⟩⟩
  refine bind_ok_iff.mpr ⟨_, helements _, bind_ok_iff.mpr ⟨.keep, rfl, ?_⟩⟩
  dsimp only [Option.getD_some]
  rw [hmake]
  rfl

/-- A list of this definition alone defines this rule alone. -/
theorem listOfValue_plainDefinition {y x : Value} {id message token : Text}
    (hid : y.text? = .ok (String.ofList id)) (hidNe : id ≠ []) (hmessage : references message = [])
    (hx : x.text? = .ok (String.ofList token)) (hne : token ≠ []) (locale : Option Locale) :
    listOfValue (.list [plainDefinition y (.text (String.ofList message)) x]) locale =
      .ok [plainRule id message token (locale.getD .english)] := by
  have hread := ofValue_plainDefinition hid hidNe hmessage hx hne locale
  exact bind_ok_iff.mpr ⟨_, mapM_ok_iff.mpr (.cons hread .nil), rfl⟩

/-! ### Files -/

/-- A rule file with one rule: an identifier, a message and an element that demands a word. -/
def ruleText (id message word : Text) : Text :=
  "- id: ".toList ++ id ++ "\n  message: ".toList ++ message ++ "\n  pattern:\n  - token: ".toList ++ word ++
    "\n".toList

section Load

open Yaml

variable {f : TextFile} {t id message w : Text} {v : Value}

theorem loadWith_eq {reader : Text → Except Fault Value} (hread : f.read .rules = .ok t)
    (hvalue : reader t = .ok v) (locale : Option Locale) :
    loadWith reader f locale = listOfValue v locale := by
  unfold loadWith
  rw [hread]
  simp only [bind, Except.bind, hvalue]

theorem ruleText_eq_layout (id message w : Text) :
    ruleText id message w =
      layout "id".toList "message".toList "pattern".toList "token".toList id message w := by
  have hid : "- id: ".toList = '-' :: ' ' :: ("id".toList ++ [':', ' ']) := by decide
  have hmessage : "\n  message: ".toList =
      '\n' :: (List.replicate 2 ' ' ++ ("message".toList ++ [':', ' '])) := by
    decide
  have hpattern : "\n  pattern:\n  - token: ".toList = '\n' :: (List.replicate 2 ' ' ++ ("pattern".toList ++
      ':' :: '\n' :: (List.replicate 2 ' ' ++ '-' :: ' ' :: ("token".toList ++ [':', ' '])))) := by
    decide
  have hend : "\n".toList = '\n' :: (List.replicate 0 ' ' ++ []) := by decide
  unfold ruleText layout
  rw [hid, hmessage, hpattern, hend]
  simp only [List.append_assoc, List.cons_append, List.nil_append]

theorem references_word (hw : ∀ c ∈ w, isAsciiLetter c = true) : references w = [] := by
  induction w with
  | nil => simp [references, pieces]
  | cons c w ih =>
    obtain ⟨hc, hw⟩ := List.forall_mem_cons.mp hw
    rw [references_char fun h => absurd h (ne_of_isAsciiLetter hc (by decide)), ih hw]

theorem meaningOf_ne_nil (hw : w ≠ []) : meaningOf w ≠ [] := by
  unfold meaningOf
  split
  · decide
  split
  · decide
  split
  · decide
  · exact hw

/-- What such a file holds. -/
theorem valueOfText_ruleText (hid : IsWord id) (hmessage : IsWord message)
    (htext : Kind.ofPlain message = .text) (hw : IsWord w) : ∃ y x,
      y.text? = .ok (String.ofList (meaningOf id)) ∧ x.text? = .ok (String.ofList (meaningOf w)) ∧
      scalarValue (Kind.ofPlain w) w = .ok x ∧
      valueOfText (ruleText id message w) =
        .ok (.list [plainDefinition y (.text (String.ofList message)) x]) := by
  obtain ⟨y, hy, hyText⟩ := hid.isScalarOf
  obtain ⟨x, hx, hxText⟩ := hw.isScalarOf
  have hmessageScalar : IsScalarOf (Kind.ofPlain message) message (.text (String.ofList message)) := by
    rw [htext]
    exact ⟨rfl, by decide, rfl⟩
  have hkeys : IsKey "id".toList ∧ IsKey "message".toList ∧ IsKey "pattern".toList ∧ IsKey "token".toList :=
    ⟨⟨isWord_of_all (by decide) rfl, by decide⟩, ⟨isWord_of_all (by decide) rfl, by decide⟩,
      ⟨isWord_of_all (by decide) rfl, by decide⟩, ⟨isWord_of_all (by decide) rfl, by decide⟩⟩
  obtain ⟨hidKey, hmessageKey, hpatternKey, htokenKey⟩ := hkeys
  -- the keys are words too, but such as mean themselves
  have hdocument := value_layoutNodes (a := "id".toList) (b := "message".toList) (c := "pattern".toList)
    (d := "token".toList) (by decide) (by decide) (by decide) (by decide) (by decide) (by decide) (by decide)
    hy hmessageScalar hx
  have hvalue := valueOfText_layout hidKey hmessageKey hpatternKey htokenKey hid hmessage hw hdocument
  rw [← ruleText_eq_layout] at hvalue
  exact ⟨y, x, hyText, hxText, hx.value_eq, hvalue⟩

/-- Its rule says what is written, but for the meaning of its words, if `reader` makes of its text what it
says. -/
theorem loadWith_ruleText {reader : Text → Except Fault Value}
    (hreader : reader (ruleText id message w) = valueOfText (ruleText id message w)) (hid : IsWord id) (hmessage : IsWord message) (htext : Kind.ofPlain message = .text)
    (hw : IsWord w) (hread : f.read .rules = .ok (ruleText id message w)) (locale : Option Locale) :
    loadWith reader f locale =
      .ok [plainRule (meaningOf id) message (meaningOf w) (locale.getD .english)] := by
  obtain ⟨y, x, hy, hx, -, hvalue⟩ := valueOfText_ruleText hid hmessage htext hw
  rw [loadWith_eq hread (hreader.trans hvalue)]
  exact listOfValue_plainDefinition hy (meaningOf_ne_nil hid.ne_nil) (references_word hmessage.letters) hx
    (meaningOf_ne_nil hw.ne_nil) locale

/-- All its characters are of ASCII. -/
theorem ruleText_ascii (hid : IsWord id) (hmessage : IsWord message) (hw : IsWord w) :
    ∀ c ∈ ruleText id message w, c.toNat < 128 ∧ c ≠ '\r' := by
  have hword : ∀ {u : Text}, IsWord u → ∀ c ∈ u, c.toNat < 128 ∧ c ≠ '\r' := by
    intro u hu c hc
    have hcode := toNat_of_isAsciiLetter (hu.letters c hc)
    exact ⟨by omega, ne_of_isAsciiLetter (hu.letters c hc) (by decide)⟩
  have hmark : ∀ {u : Text}, u.all (fun c => c.toNat < 128 ∧ c ≠ '\r') = true →
      ∀ c ∈ u, c.toNat < 128 ∧ c ≠ '\r' :=
    fun hu c hc => of_decide_eq_true (List.all_eq_true.mp hu c hc)
  unfold ruleText
  simp only [List.forall_mem_append]
  exact ⟨⟨⟨⟨⟨⟨hmark (by decide), hword hid⟩, hmark (by decide)⟩, hword hmessage⟩, hmark (by decide)⟩, hword hw⟩,
    hmark (by decide)⟩

theorem demands_plainRule (locale : Locale) : Demands [plainRule id message w locale] w :=
  ⟨_, _, rfl, rfl, rfl⟩

theorem Demands.unique {rules : List Rule} {t u : Text} (ht : Demands rules t) (hu : Demands rules u) :
    t = u := by
  obtain ⟨r, e, rfl, he, ht⟩ := ht
  obtain ⟨r', e', hr, he', hu⟩ := hu
  obtain rfl := List.singleton_inj.mp hr
  obtain rfl := List.singleton_inj.mp (he.symm.trans he')
  exact Option.some.inj (ht.symm.trans hu)

/-- **Words as tokens.**  Let `reader` make values of texts.  Whatever else is in a file with one rule of one
element, a word that stands there plainly for a token is demanded as what it means, if the rules are made at
all.  Those of a file with nothing but an identifier, a message and the word are made, if `reader` makes of
its text what it says.  A word means itself unless it is one of 19, which are read as truth values or as
nothing before they are shown again. -/
theorem load_word (reader : Text → Except Fault Value) (hw : IsWord w) :
    (∀ f locale t v x rules, TextFile.read f .rules = .ok t → reader t = .ok v → DefinesToken v x →
      scalarValue (Kind.ofPlain w) w = .ok x → loadWith reader f locale = .ok rules →
      Demands rules (meaningOf w)) ∧
    (∀ f locale id message, IsWord id → IsWord message → Kind.ofPlain message = .text →
      TextFile.bytes f = some ((ruleText id message w).map Char.toNat) →
      reader (ruleText id message w) = valueOfText (ruleText id message w) →
      ∃ rules, loadWith reader f locale = .ok rules ∧ Demands rules (meaningOf w)) ∧
    (meaningOf w = w ↔ ∀ n ∈ ambiguous, w ≠ n.toList) := by
  refine ⟨?_, ?_, meaningOf_eq_self_iff w⟩
  · intro f locale t v x rules hread hvalue hv hx hload
    obtain ⟨x', hx', htext⟩ := hw.isScalarOf
    -- the value of the word is shown as what the word means
    obtain rfl := Except.ok.inj (hx.symm.trans hx'.value_eq)
    rw [loadWith_eq hread hvalue] at hload
    have hdemands := demands_of_definesToken hv hload
    rwa [← Value.text?_ok htext, String.toList_ofList] at hdemands
  · intro f locale id message hid hmessage htext hbytes hreader
    have hread := TextFile.read_ascii hbytes (ruleText_ascii hid hmessage hw) .rules
    exact ⟨_, loadWith_ruleText hreader hid hmessage htext hw hread locale, demands_plainRule _⟩

/-- A file with a rule about the word "no". -/
def noFile : TextFile where
  name := "rules.yaml"
  bytes := some ("- id: R\n  message: m\n  pattern:\n  - token: no\n".toList.map Char.toNat)

theorem noFile_bytes : noFile.bytes = some ((ruleText "R".toList "m".toList "no".toList).map Char.toNat) := by
  decide

theorem noFile_words : IsWord "R".toList ∧ IsWord "m".toList ∧ IsWord "no".toList :=
  ⟨isWord_of_all (by decide) rfl, isWord_of_all (by decide) rfl, isWord_of_all (by decide) rfl⟩

theorem read_noFile : noFile.read .rules = .ok (ruleText "R".toList "m".toList "no".toList) := by
  obtain ⟨hid, hmessage, hno⟩ := noFile_words
  exact TextFile.read_ascii noFile_bytes (ruleText_ascii hid hmessage hno) .rules

/-- The file is read, but its rule is about another word. -/
theorem load_noFile : IsWord "no".toList ∧ ∃ t v x rules, noFile.read .rules = .ok t ∧ valueOfText t = .ok v ∧
    DefinesToken v x ∧ scalarValue (Kind.ofPlain "no".toList) "no".toList = .ok x ∧ load noFile = .ok rules ∧
      Demands rules "False".toList := by
  obtain ⟨hid, hmessage, hno⟩ := noFile_words
  obtain ⟨hdemands, hmade, -⟩ := load_word valueOfText hno
  obtain ⟨y, x, -, -, hx, hvalue⟩ := valueOfText_ruleText hid hmessage (by decide) hno
  obtain ⟨rules, hload, -⟩ := hmade noFile none _ _ hid hmessage (by decide) noFile_bytes rfl
  have hdefines := definesToken_plainDefinition y (.text "m") x
  exact ⟨hno, _, _, x, rules, read_noFile, hvalue, hdefines, hx, hload,
    hdemands _ _ _ _ _ _ read_noFile hvalue hdefines hx hload⟩

/-- The word as it is written is demanded nowhere. -/
theorem exists_token_ne : ∃ w rules, IsWord w ∧
    noFile.bytes = some ((ruleText "R".toList "m".toList w).map Char.toNat) ∧ load noFile = .ok rules ∧
      ¬ Demands rules w := by
  obtain ⟨hid, hmessage, hno⟩ := noFile_words
  refine ⟨_, _, hno, noFile_bytes, loadWith_ruleText rfl hid hmessage (by decide) hno read_noFile none,
    fun hdemands => ?_⟩
  have hsame := hdemands.unique (demands_plainRule _)
  revert hsame
  decide

end Load

end Rule

end Pattern

end Copyedit
