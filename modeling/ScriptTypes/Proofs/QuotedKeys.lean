import Mathlib
import ScriptTypes.Proofs.Gathering
import ScriptTypes.Proofs.Locality
import ScriptTypes.Proofs.Samples

/-!
# Keys in quotes

A key of a literal, of a pattern or of a class field can be written in quotes. As long as it is
an identifier it states the same name, so a scope tells the same whichever keys in it are put in
quotes, however deep they are nested. The quotes take up room: what stands behind them moves, and
the text of what stands around them changes. Neither is read.

What counts as an identifier leaves out names with a dollar sign, which need no quotes. Such a
key is a field without quotes and none in quotes.
-/

namespace ScriptTypes.Usage

open Syntax

/-! ## Trees with keys in quotes -/

/-- A key, in quotes, is the other one, whose name is among some good ones. -/
def quotesKey (good : String → Bool) (k k' : Node) : Bool :=
  k.kind == "string" && k.children.all (fun c => c.children.isEmpty && c.kind ∉ usageKinds) &&
    k'.kind == "property_identifier" && k'.children.isEmpty &&
    match k.text, k'.text with
    | .ok quoted, .ok key =>
      good key && (quoted == "'" ++ key ++ "'" || quoted == "\"" ++ key ++ "\"")
    | _, _ => false

/-- A node says the same as another one, but for its place and for the text around keys. -/
def keeps (move : Nat → Nat) (d d' : NodeData) (leaf : Bool) : Bool :=
  d.kind == d'.kind && d.named == d'.named && d.start == move d'.start &&
    d.stop == move d'.stop && (d.bytes == d'.bytes || !leaf && d.kind ∉ nameKinds)

/-- A child is not what a node accesses, or it has the same text as another one. -/
def keepsProperty (kind : String) (c c' : Node) : Bool :=
  c.data.bytes == c'.data.bytes || kind != "member_expression" || c.data.field != some "property"

mutual

/-- A tree is another one with keys in quotes; `move` tells where the offsets of that are now. -/
def quotes (good : String → Bool) (move : Nat → Nat) : Node → Node → Bool
  | .mk d cs, .mk d' cs' =>
    keeps move d d' cs.isEmpty && quotesAll good move d.kind cs cs'

/-- The children of a node of a kind are others in the same fields, with keys in quotes. -/
def quotesAll (good : String → Bool) (move : Nat → Nat) (kind : String) :
    List Node → List Node → Bool
  | [], [] => true
  | c :: cs, c' :: cs' =>
    c.data.field == c'.data.field &&
      (quotes good move c c' && keepsProperty kind c c' ||
        (c.data.field.any fun field => KeyField kind field) && quotesKey good c c') &&
      quotesAll good move kind cs cs'
  | [], _ :: _ => false
  | _ :: _, [] => false

end

variable {good : String → Bool} {move : Nat → Nat} {x y c c' k k' root root' : Node}
  {s t : Focus} {name : String}

theorem quotes_iff : quotes good move x y ↔
    keeps move x.data y.data x.children.isEmpty ∧
      quotesAll good move x.kind x.children y.children := by
  obtain ⟨d, cs⟩ := x
  obtain ⟨d', cs'⟩ := y
  rw [quotes, Bool.and_eq_true]
  rfl

/-- What is known of children that go together. -/
structure KeptSiblings (good : String → Bool) (move : Nat → Nat) (kind : String) (c c' : Node) :
    Prop where
  /-- They fill the same field. -/
  field : c.data.field = c'.data.field
  /-- One is the other, with keys in quotes, or it is the key in quotes. -/
  related : quotes good move c c' = true ∧ keepsProperty kind c c' = true ∨
    quotesKey good c c' = true ∧ ∃ field, c.data.field = some field ∧ KeyField kind field

theorem forall₂_of_quotesAll {kind : String} {cs cs' : List Node}
    (h : quotesAll good move kind cs cs') :
    List.Forall₂ (KeptSiblings good move kind) cs cs' := by
  induction cs generalizing cs' with
  | nil =>
      cases cs' with
      | nil => exact .nil
      | cons c' cs' => exact absurd h Bool.false_ne_true
  | cons c cs ih =>
      cases cs' with
      | nil => exact absurd h Bool.false_ne_true
      | cons c' cs' =>
          rw [quotesAll, Bool.and_eq_true, Bool.and_eq_true, Bool.or_eq_true, Bool.and_eq_true,
            Bool.and_eq_true] at h
          obtain ⟨⟨hfield, hrelated⟩, hrest⟩ := h
          refine .cons ⟨eq_of_beq hfield, hrelated.imp_right fun ⟨hkey, hquotes⟩ => ?_⟩ (ih hrest)
          cases hfield : c.data.field with
          | none =>
              rw [hfield] at hkey
              cases hkey
          | some field =>
              rw [hfield, Option.any_some] at hkey
              exact ⟨hquotes, field, rfl, of_decide_eq_true hkey⟩

/-! ## Related nodes -/

/-- Two nodes at the same place, one the other with keys in quotes. -/
structure Requoted (good : String → Bool) (move : Nat → Nat) (root root' x y : Node) : Prop where
  /-- They are at the same place in the two trees. -/
  place : Node.Corresponds root root' x y
  /-- The one is the other with keys in quotes. -/
  quotes : quotes good move x y = true

/-- What two related nodes say of themselves. -/
structure Kept (move : Nat → Nat) (x y : Node) : Prop where
  /-- They are of one kind. -/
  kind : x.kind = y.kind
  /-- Both are bare tokens, or neither is. -/
  named : x.named = y.named
  /-- The one starts where the start of the other has moved. -/
  start : x.start = move y.start
  /-- It ends where the end of the other has moved. -/
  stop : x.stop = move y.stop
  /-- If the text is a name, it is the same. -/
  bytes : x.kind ∈ nameKinds → x.data.bytes = y.data.bytes

theorem kept_of_quotes (h : quotes good move x y) : Kept move x y := by
  have hkeeps := (quotes_iff.mp h).1
  unfold keeps at hkeeps
  simp only [Bool.and_eq_true, Bool.or_eq_true, beq_iff_eq] at hkeeps
  obtain ⟨⟨⟨⟨hkind, hnamed⟩, hstart⟩, hstop⟩, hbytes⟩ := hkeeps
  refine ⟨hkind, hnamed, hstart, hstop, fun hname => hbytes.resolve_right fun hother => ?_⟩
  exact of_decide_eq_true hother.2 hname

theorem text_eq_of_bytes (h : x.data.bytes = y.data.bytes) : x.text = y.text := by
  unfold Node.text
  rw [h]

/-- Quotes around a name can be taken off again. -/
theorem unquoted_quoted (quote name : String) (h : quote.toList.length = 1) :
    unquoted (quote ++ name ++ quote) = name := by
  unfold unquoted
  obtain ⟨q, hq⟩ := List.length_eq_one_iff.mp h
  rw [String.toList_append, String.toList_append, hq]
  simp

/-- What is known of a key in quotes. -/
structure Quoted (good : String → Bool) (k k' : Node) : Prop where
  /-- In quotes it is a string. -/
  string : k.kind = "string"
  /-- There are only tokens in the string. -/
  tokens : ∀ c ∈ k.children, c.children = [] ∧ c.kind ∉ usageKinds
  /-- Without quotes it is a name. -/
  plain : k'.kind = "property_identifier"
  /-- There is nothing in the name. -/
  bare : k'.children = []
  /-- The text of the string is the name between two quotes. -/
  text : ∃ quote key, quote.toList.length = 1 ∧ good key ∧
    k.text = .ok (quote ++ key ++ quote) ∧ k'.text = .ok key

theorem quoted_of_quotesKey (h : quotesKey good k k') : Quoted good k k' := by
  unfold quotesKey at h
  simp only [Bool.and_eq_true, List.all_eq_true, beq_iff_eq, decide_eq_true_eq,
    List.isEmpty_iff] at h
  obtain ⟨⟨⟨⟨hstring, htokens⟩, hplain⟩, hbare⟩, htext⟩ := h
  refine ⟨hstring, htokens, hplain, hbare, ?_⟩
  split at htext
  · rename_i quoted key hquoted hkey
    simp only [Bool.and_eq_true, Bool.or_eq_true, beq_iff_eq] at htext
    obtain ⟨hgood, rfl | rfl⟩ := htext
    · exact ⟨"'", key, rfl, hgood, hquoted, hkey⟩
    · exact ⟨"\"", key, rfl, hgood, hquoted, hkey⟩
  · cases htext

/-- There is no usage in a key in quotes. -/
theorem Quoted.idle {n : Node} (h : Quoted good k k') (hn : k.Within n) :
    n.kind ∉ usageKinds := by
  rcases hn.eq_or_child with rfl | ⟨c, hc, hn⟩
  · rw [h.string]
    decide
  · obtain ⟨hbare, hkind⟩ := h.tokens c hc
    rcases hn.eq_or_child with rfl | ⟨d, hd, _⟩
    · exact hkind
    · rw [hbare] at hd
      cases hd

/-- **A key that is an identifier states its name in quotes as well.** -/
theorem Quoted.keyName?_eq (hgood : ∀ key, good key → Text.isIdentifier key)
    (h : Quoted good k k') : keyName? (some k) = keyName? (some k') := by
  obtain ⟨quote, key, hquote, hkey, htext, htext'⟩ := h.text
  unfold keyName?
  dsimp only
  rw [h.string, h.plain, htext, htext', if_neg (by decide), if_pos rfl, if_pos (.inl rfl)]
  show Except.ok _ = Except.ok _
  rw [unquoted_quoted quote key hquote, if_pos (hgood key hkey)]

/-- What an access is to has the same text. -/
theorem property_of_quotes {p p' : Node} (h : quotes good move x y)
    (hk : x.kind = "member_expression") (hp : x.field? "property" = some p)
    (hp' : y.field? "property" = some p') : p.text = p'.text := by
  have hfind : Option.Rel (KeptSiblings good move x.kind) (x.field? "property")
      (y.field? "property") := by
    have hchildren : Matched (fun _ => False) (KeptSiblings good move x.kind) x.children
        y.children := .of_forall₂ (forall₂_of_quotesAll (quotes_iff.mp h).2)
    refine hchildren.find? (fun _ hfalse => hfalse.elim) fun c c' hc => ?_
    rw [hc.field]
  have hfield : p.data.field = some "property" := by simpa using List.find?_some hp
  rw [hp, hp'] at hfind
  cases hfind with
  | some hc =>
      rcases hc.related with ⟨_, hproperty⟩ | ⟨_, field, hfield', hkey⟩
      · unfold keepsProperty at hproperty
        rw [hk, hfield] at hproperty
        exact text_eq_of_bytes (by simpa using hproperty)
      · -- what is accessed is no key
        rw [hfield] at hfield'
        obtain rfl := Option.some.inj hfield'
        rw [hk] at hkey
        exact absurd hkey (by decide)

/-- Children of related nodes are related, or one is a key and the other one is it in quotes. -/
theorem Requoted.children (h : Requoted good move root root' x y) :
    List.Forall₂ (KeyedSiblings (Requoted good move root root') (Quoted good) x.kind)
      x.children y.children := by
  have hchildren := forall₂_of_quotesAll (quotes_iff.mp h.quotes).2
  refine List.forall₂_iff_zip.mpr ⟨hchildren.length_eq, fun hc => ?_⟩
  obtain ⟨hfield, hrelated⟩ := List.forall₂_zip hchildren hc
  refine ⟨hfield, hrelated.imp (fun hquotes => ⟨.child h.place hc, hquotes.1⟩) fun hkey => ?_⟩
  exact ⟨quoted_of_quotesKey hkey.1, hkey.2⟩

/-- Trees with keys in quotes are read like those without. -/
theorem likeness_of_requoted (hgood : ∀ key, good key → Text.isIdentifier key)
    (hmove : Function.Injective move) :
    Likeness (Requoted good move root root') (Quoted good) where
  kind := fun h => (kept_of_quotes h.quotes).kind
  named := fun h => (kept_of_quotes h.quotes).named
  name := fun h hname => text_eq_of_bytes ((kept_of_quotes h.quotes).bytes hname)
  property := fun h => property_of_quotes h.quotes
  alike := by
    intro x y c c' h hc
    have hx := kept_of_quotes h.quotes
    have hc := kept_of_quotes hc.quotes
    -- offsets are the same after they have moved if they were the same before
    have hmoved : ∀ a b, (move a == move b) = (a == b) :=
      fun a b => Bool.eq_iff_iff.mpr (by simp [hmove.eq_iff])
    unfold Node.alike
    rw [hx.kind, hc.kind, hx.start, hc.start, hx.stop, hc.stop, hmoved, hmoved]
  children := fun h => .of_forall₂ h.children
  key := Quoted.keyName?_eq hgood
  idle := Quoted.idle
  plain := by
    intro k k' h
    rw [h.plain]
    decide
  bare := Quoted.bare

/-! ## The main theorem -/

/-- Two places are the same in two trees: the ways down from the roots are. -/
inductive SamePlace (root root' : Node) : Focus → Focus → Prop where
  | root : SamePlace root root' (.ofRoot root) (.ofRoot root')
  | child {f g : Focus} {c c' : Node} : SamePlace root root' f g →
      (c, c') ∈ f.node.children.zip g.node.children →
      SamePlace root root' (f.child c) (g.child c')

/-- At the same place stand related nodes among related ones, or a key and the key in quotes. -/
theorem SamePlace.related (h : SamePlace root root' s t) (hroot : quotes good move root root') :
    Around (Requoted good move root root') s t ∨ Quoted good s.node t.node := by
  induction h with
  | root => exact .inl ⟨⟨.root, hroot⟩, .nil⟩
  | @child f g c c' _ hc ih =>
      rcases ih with hfg | hkey
      · have hsiblings := List.forall₂_zip hfg.node.children hc
        rcases hsiblings.related with hrelated | ⟨hkey, -⟩
        · exact .inl ⟨hrelated, .step hfg.node hfg.above⟩
        · exact .inr hkey
      · -- there is nothing below a key
        rw [hkey.bare, List.zip_nil_right] at hc
        cases hc

/-- A scope tells nothing of a binding if there is no usage in it. -/
theorem gather_of_idle (h : ∀ n, s.node.Within n → n.kind ∉ usageKinds) :
    gather s name = .ok none := by
  rw [gather_eq_none_iff]
  exact fun f hf => fragment_of_kind (h f.node (Focus.mem_descendants_iff.mp hf).within)

/--
**Quoting a key makes no difference, as long as it is an identifier.** Two scopes at the same
place in two trees, one of which is the other one with any keys of literals, patterns and class
fields put in quotes, tell the same of a name, with the expressions at the same places.
-/
theorem gather_of_quotes (hgood : ∀ key, good key → Text.isIdentifier key)
    (hmove : Function.Injective move) (hroot : quotes good move root root')
    (hplace : SamePlace root root' s t) (name : String) :
    SameOutcome (Option.Rel (Shape.Alike (Requoted good move root root')))
      (gather s name) (gather t name) := by
  rcases hplace.related hroot with hstands | hkey
  · exact (likeness_of_requoted hgood hmove).gather_alike ⟨hstands.node, fun _ => hstands.above⟩
  · -- a key on its own tells nothing, with quotes or without
    have hplain : ∀ n, t.node.Within n → n.kind ∉ usageKinds := by
      intro n hn
      rcases hn.eq_or_child with rfl | ⟨c, hc, _⟩
      · rw [hkey.plain]
        decide
      · rw [hkey.bare] at hc
        cases hc
    rw [gather_of_idle fun n hn => hkey.idle hn, gather_of_idle hplain]
    exact .ok .none

/-! ## Names of the scripting language -/

/-- A name that needs no quotes: letters, digits, underscores and dollar signs, no digit first. -/
def isScriptName (s : String) : Bool :=
  match s.toList with
  | [] => false
  | c :: cs => !c.isDigit && (c :: cs).all fun c => c.isAlphanum || c == '_' || c == '$'

/-- Such a name without a dollar sign. -/
def isDollarless (s : String) : Bool := isScriptName s && !s.toList.contains '$'

/-- Letters and underscores start identifiers. -/
theorem holds_starts {c : Char} (h : c.isAlpha ∨ c = '_') : Text.identifierStarts.holds c := by
  rw [Text.RangeTable.holds_iff]
  rcases h with h | rfl
  · simp only [Char.isAlpha, Char.isUpper, Char.isLower, Bool.or_eq_true, Bool.and_eq_true,
      decide_eq_true_eq, ge_iff_le, UInt32.le_iff_toNat_le] at h
    rcases h with h | h
    · exact ⟨(0x41, 0x5a), by decide +kernel, h⟩
    · exact ⟨(0x61, 0x7a), by decide +kernel, h⟩
  · exact ⟨(0x5f, 0x5f), by decide +kernel, by decide⟩

/-- Letters, underscores and digits go on in them. -/
theorem holds_parts {c : Char} (h : c.isAlphanum ∨ c = '_') : Text.identifierParts.holds c := by
  rw [Text.RangeTable.holds_iff]
  rcases h with h | rfl
  · simp only [Char.isAlphanum, Char.isAlpha, Char.isUpper, Char.isLower, Char.isDigit,
      Bool.or_eq_true, Bool.and_eq_true, decide_eq_true_eq, ge_iff_le,
      UInt32.le_iff_toNat_le] at h
    rcases h with (h | h) | h
    · exact ⟨(0x41, 0x5a), by decide +kernel, h⟩
    · exact ⟨(0x61, 0x7a), by decide +kernel, h⟩
    · exact ⟨(0x30, 0x39), by decide +kernel, h⟩
  · exact ⟨(0x5f, 0x5f), by decide +kernel, by decide⟩

/-- **A name without a dollar sign is an identifier.** -/
theorem isIdentifier_of_isDollarless {s : String} (h : isDollarless s) : Text.isIdentifier s := by
  unfold isDollarless isScriptName at h
  unfold Text.isIdentifier
  rw [Bool.and_eq_true] at h
  obtain ⟨hname, hdollar⟩ := h
  have hne : ∀ c ∈ s.toList, c ≠ '$' := by
    rintro c hc rfl
    simp [hc] at hdollar
  cases hs : s.toList with
  | nil =>
      rw [hs] at hname
      cases hname
  | cons c cs =>
      rw [hs] at hne hname
      simp only [Bool.and_eq_true, Bool.not_eq_true', List.all_eq_true, Bool.or_eq_true,
        beq_iff_eq] at hname
      obtain ⟨hdigit, hall⟩ := hname
      have hword : ∀ d ∈ c :: cs, d.isAlphanum ∨ d = '_' := fun d hd =>
        (hall d hd).resolve_right (hne d hd)
      refine Bool.and_eq_true_iff.mpr ⟨holds_starts ?_, List.all_eq_true.mpr fun d hd => ?_⟩
      · refine (hword c List.mem_cons_self).imp_left fun halnum => ?_
        rw [Char.isAlphanum, hdigit, Bool.or_false] at halnum
        exact halnum
      · exact holds_parts (hword d (List.mem_cons_of_mem _ hd))

/-! ### A literal with and without quotes -/

namespace Quoting

/-- The assignment of a literal in a literal; everything but the outer key has moved. -/
def assignment (source : String) (move : Nat → Nat) (key : Node) : Node :=
  let moved := fun kind start stop field (children : List Node) =>
    nodeOf source kind (move start) (move stop) field children
  moved "assignment_expression" 0 20 none
    [moved "identifier" 0 1 (some "left") [],
     moved "object" 4 20 (some "right")
      [moved "pair" 6 18 none
        [key,
         moved "object" 10 18 (some "value")
          [moved "pair" 12 16 none
            [moved "property_identifier" 12 13 (some "key") [],
             moved "number" 15 16 (some "value") []]]]]]

/-- What stands behind the outer key moves by the quotes. -/
def widen (offset : Nat) : Nat := if offset ≤ 6 then offset else offset + 2

/-- The assignment with a key of two letters. -/
def plain (key : String) : Node :=
  let source := "o = \x7b " ++ key ++ ": \x7b b: 1 \x7d \x7d;"
  assignment source id (nodeOf source "property_identifier" 6 8 (some "key"))

/-- The assignment with this key in quotes. -/
def quoted (key : String) : Node :=
  let source := "o = \x7b '" ++ key ++ "': \x7b b: 1 \x7d \x7d;"
  assignment source widen (nodeOf source "string" 6 10 (some "key")
    [nodeOf source "'" 6 7 none, nodeOf source "string_fragment" 7 9 none,
     nodeOf source "'" 9 10 none])

theorem widen_injective : Function.Injective widen := by
  intro a b h
  unfold widen at h
  split_ifs at h <;> omega

end Quoting

/-- The names of the fields that a scope tells. -/
def toldNames (told : Except Fault (Option (Shape Node))) : Option (List String) :=
  match told with
  | .ok (some shape) => some (shape.fields.map (·.1))
  | .ok none => some []
  | .error _ => none

/-- Scopes that tell alike tell fields of the same names. -/
theorem toldNames_eq {r : Node → Node → Prop} {told told' : Except Fault (Option (Shape Node))}
    (h : SameOutcome (Option.Rel (Shape.Alike r)) told told') :
    toldNames told = toldNames told' := by
  cases h with
  | error => rfl
  | ok h =>
      cases h with
      | none => rfl
      | some h =>
          unfold toldNames
          dsimp only
          rw [h.names_eq]

open Quoting in
theorem gather_of_quotes_nested :
    (∀ key, isDollarless key → Text.isIdentifier key) ∧ Function.Injective widen ∧
      quotes isDollarless widen (quoted "ab") (plain "ab") ∧
      SamePlace (quoted "ab") (plain "ab") (.ofRoot (quoted "ab")) (.ofRoot (plain "ab")) ∧
      SameOutcome
        (Option.Rel (Shape.Alike (Requoted isDollarless widen (quoted "ab") (plain "ab"))))
        (gather (.ofRoot (quoted "ab")) "o") (gather (.ofRoot (plain "ab")) "o") ∧
      toldNames (gather (.ofRoot (quoted "ab")) "o") = some ["ab"] := by
  have hgood : ∀ key, isDollarless key → Text.isIdentifier key :=
    fun _ => isIdentifier_of_isDollarless
  have hquotes : quotes isDollarless widen (quoted "ab") (plain "ab") := by decide +kernel
  exact ⟨hgood, widen_injective, hquotes, .root,
    gather_of_quotes hgood widen_injective hquotes .root "o", by decide +kernel⟩

open Quoting in
/-- **A key with a dollar sign is a field, and in quotes it is none.** -/
theorem quoted_dollar_is_lost :
    Function.Injective widen ∧ quotes isScriptName widen (quoted "$a") (plain "$a") ∧
      SamePlace (quoted "$a") (plain "$a") (.ofRoot (quoted "$a")) (.ofRoot (plain "$a")) ∧
      toldNames (gather (.ofRoot (plain "$a")) "o") = some ["$a"] ∧
      toldNames (gather (.ofRoot (quoted "$a")) "o") = some [] ∧
      ¬ SameOutcome (Option.Rel (Shape.Alike
          (Requoted isScriptName widen (quoted "$a") (plain "$a"))))
        (gather (.ofRoot (quoted "$a")) "o") (gather (.ofRoot (plain "$a")) "o") := by
  have hplain : toldNames (gather (.ofRoot (plain "$a")) "o") = some ["$a"] := by decide +kernel
  have hquoted : toldNames (gather (.ofRoot (quoted "$a")) "o") = some [] := by decide +kernel
  refine ⟨widen_injective, by decide +kernel, .root, hplain, hquoted, fun hsame => ?_⟩
  have hnames := toldNames_eq hsame
  rw [hplain, hquoted] at hnames
  exact absurd hnames (by decide)

end ScriptTypes.Usage
