/-
# Sentential.Proofs.Parser.Respelling -- reading a text in other symbols

A respelled text is scanned again token by token. The blanks of a joiner and the characters of a
sign end a name in front of them, and nothing else could be taken for a longer lexeme than it is, so
the tokens of the new text are those of the old one in another spelling, as long as no two names
stand side by side. Where they do, the respelled text runs them together: it is then the respelling
of the tokens with these names glued, and of glued tokens no two names stand side by side. Hence a
second respelling has the same words to spell as the first.
-/
import Sentential.Analysis
import Sentential.Proofs.Parser.Spelling
import Sentential.Proofs.Parser.Writing

namespace Sentential

/-! ## Names side by side -/

/-- Not both tokens are names. -/
def Token.Apart (t u : Token) : Prop := t.kind = .identifier → u.kind ≠ .identifier

namespace Token.Apart

variable {t u : Token}

theorem of_left (h : t.kind ≠ .identifier) : t.Apart u := fun ht => absurd ht h

theorem of_right (h : u.kind ≠ .identifier) : t.Apart u := fun _ => h

/-- A token that is no name keeps what is in front of it apart from what is behind. -/
theorem isChain_append {ts us : List Token} (hts : ts.IsChain Token.Apart)
    (hus : us.IsChain Token.Apart) (ht : t.kind ≠ .identifier) :
    (ts ++ t :: us).IsChain Token.Apart := by
  apply hts.append (hus.cons fun _ _ => of_left ht)
  intro s _ u hu
  obtain rfl : t = u := Option.some.inj hu
  exact of_right ht

end Token.Apart

/-- In a formula no two names stand side by side. -/
theorem Derives.isChain_apart {c : Category} {ts : List Token} {f : Formula} {d : Nat}
    (h : Derives c ts f d) : ts.IsChain Token.Apart := by
  induction h with
  | name _ => exact .singleton _
  | @group opening closing ts f d hopening hclosing _ ih =>
      have hlast : (ts ++ [closing]).IsChain Token.Apart :=
        Token.Apart.isChain_append ih .nil (by simp [hclosing])
      exact hlast.cons fun _ _ => .of_left (by simp [hopening])
  | negation ht _ ih => exact ih.cons fun _ _ => .of_left (by simp [ht])
  | join ht _ _ ihl ihr => exact Token.Apart.isChain_append ihl ihr (by simp [ht])
  | unjoined _ ih => exact ih
  | unnegated _ ih => exact ih

/-- A token in front of others, made one with the first of them if both are names. -/
def glueOnto (t : Token) : List Token → List Token
  | [] => [t]
  | u :: us =>
    if t.kind = .identifier ∧ u.kind = .identifier then
      ⟨.identifier, t.text ++ u.text, t.index⟩ :: us
    else t :: u :: us

/-- The tokens with all names that stand side by side made one. -/
def glued (ts : List Token) : List Token := ts.foldr glueOnto []

theorem isChain_glueOnto (t : Token) {us : List Token} (h : us.IsChain Token.Apart) :
    (glueOnto t us).IsChain Token.Apart := by
  cases us with
  | nil => exact .singleton t
  | cons u us =>
      rw [glueOnto]
      split
      · next hnames =>
          obtain ⟨hhead, htail⟩ := List.isChain_cons.mp h
          exact htail.cons fun v hv _ => hhead v hv hnames.2
      · next hnot =>
          apply h.cons
          intro v hv ht hu
          obtain rfl : u = v := Option.some.inj hv
          exact hnot ⟨ht, hu⟩

theorem isChain_glued (ts : List Token) : (glued ts).IsChain Token.Apart := by
  induction ts with
  | nil => exact .nil
  | cons t ts ih => exact isChain_glueOnto t ih

/-- Where no two names stand side by side, there is nothing to glue. -/
theorem glued_of_isChain {ts : List Token} (h : ts.IsChain Token.Apart) : glued ts = ts := by
  induction ts with
  | nil => rfl
  | cons t ts ih =>
      obtain ⟨hhead, htail⟩ := List.isChain_cons.mp h
      show glueOnto t (glued ts) = t :: ts
      rw [ih htail]
      cases ts with
      | nil => rfl
      | cons u ts => exact if_neg fun hnames => hhead u rfl hnames.1 hnames.2

/-- Two names in a row are a name. -/
theorem IsName.append {s s' : String} (h : IsName s) (h' : IsName s') : IsName (s ++ s') := by
  obtain ⟨c, cs, htext, hc, hcs⟩ := h
  obtain ⟨c', cs', htext', hc', hcs'⟩ := h'
  refine ⟨c, cs ++ c' :: cs', ?_, hc, ?_⟩
  · rw [String.toList_append, htext, htext', List.cons_append]
  · intro x hx
    rcases List.mem_append.mp hx with hx | hx
    · exact hcs x hx
    · rcases List.mem_cons.mp hx with rfl | hx
      · exact isNameChar_of_isNameStart hc'
      · exact hcs' x hx

theorem spells_glueOnto {t : Token} {us : List Token} (ht : t.kind.Spells t.text)
    (hus : ∀ u ∈ us, u.kind.Spells u.text) : ∀ u ∈ glueOnto t us, u.kind.Spells u.text := by
  cases us with
  | nil => exact List.forall_mem_singleton.mpr ht
  | cons u us =>
      obtain ⟨hu, hus⟩ := List.forall_mem_cons.mp hus
      rw [glueOnto]
      split
      · next hnames =>
          rw [hnames.1] at ht
          rw [hnames.2] at hu
          exact List.forall_mem_cons.mpr ⟨IsName.append ht hu, hus⟩
      · exact List.forall_mem_cons.mpr ⟨ht, List.forall_mem_cons.mpr ⟨hu, hus⟩⟩

theorem spells_glued {ts : List Token} (h : ∀ t ∈ ts, t.kind.Spells t.text) :
    ∀ t ∈ glued ts, t.kind.Spells t.text := by
  induction ts with
  | nil => exact h
  | cons t ts ih =>
      obtain ⟨ht, hts⟩ := List.forall_mem_cons.mp h
      exact spells_glueOnto ht (ih hts)

/-! ## Respelled tokens -/

section Respelling

variable {symbols : Symbols}

theorem respelling_cons (symbols : Symbols) (t : Token) (ts : List Token) :
    respelling symbols (t :: ts) = t.respelled symbols ++ respelling symbols ts :=
  String.join_cons

theorem Token.respelled_of_identifier {t : Token} (h : t.kind = .identifier) :
    t.respelled symbols = t.text := by
  unfold respelled
  rw [h]

theorem respelling_glueOnto (symbols : Symbols) (t : Token) (us : List Token) :
    respelling symbols (glueOnto t us) = respelling symbols (t :: us) := by
  cases us with
  | nil => rfl
  | cons u us =>
      rw [glueOnto]
      split
      · next hnames =>
          rw [respelling_cons, respelling_cons, respelling_cons, ← String.append_assoc,
            Token.respelled_of_identifier hnames.1, Token.respelled_of_identifier hnames.2]
          rfl
      · rfl

/-- Gluing does not show in the text. -/
theorem respelling_glued (symbols : Symbols) (ts : List Token) :
    respelling symbols (glued ts) = respelling symbols ts := by
  induction ts with
  | nil => rfl
  | cons t ts ih =>
      show respelling symbols (glueOnto t (glued ts)) = _
      rw [respelling_glueOnto, respelling_cons, respelling_cons, ih]

/-- A respelled token that is no name ends a name in front of it. -/
theorem Token.endsName_respelled (hsymbols : symbols.Readable) {t : Token}
    (ht : t.kind.Spells t.text) (hkind : t.kind ≠ .identifier) (rest : List Char) :
    EndsName ((t.respelled symbols).toList ++ rest) := by
  unfold respelled
  cases ht' : t.kind with
  | identifier => exact absurd ht' hkind
  | negation => exact hsymbols.negation.endsName (by simp) rest
  | connective op =>
      obtain ⟨sign, -, hjoiner⟩ := hsymbols.joiner op
      show EndsName ((symbols.joiner op).toList ++ rest)
      rw [hjoiner, String.toList_append, String.toList_append]
      exact endsName_cons (by decide) _
  | opening => exact ht.endsName hkind rest
  | closing => exact ht.endsName hkind rest

/-- A respelled token is cut off as one token like it. -/
theorem Token.cut_respelled (hsymbols : symbols.Readable) {t : Token} (ht : t.kind.Spells t.text)
    {rest : List Char} (hrest : t.kind = .identifier → EndsName rest) (p : Nat) :
    ∃ u, Cut p ((t.respelled symbols).toList ++ rest) [u]
        (p + (t.respelled symbols).length) rest ∧
      t.Alike u ∧ ∀ symbols' : Symbols, u.respelled symbols' = t.respelled symbols' := by
  rcases t with ⟨kind, text, index⟩
  cases kind with
  | identifier => exact ⟨_, .one ht hrest, ⟨rfl, fun _ => rfl⟩, fun _ => rfl⟩
  | negation => exact ⟨_, .one hsymbols.negation (by simp), ⟨rfl, by simp⟩, fun _ => rfl⟩
  | connective op =>
      obtain ⟨sign, hsign, hjoiner⟩ := hsymbols.joiner op
      exact ⟨_, cut_joiner hsign hjoiner p rest, ⟨rfl, by simp⟩, fun _ => rfl⟩
  | opening => exact ⟨_, .one ht hrest, ⟨rfl, by simp⟩, fun _ => rfl⟩
  | closing => exact ⟨_, .one ht hrest, ⟨rfl, by simp⟩, fun _ => rfl⟩

/-- Tokens of which no two names stand side by side are found again in their respelling. -/
theorem cut_respelling (hsymbols : symbols.Readable) {ts : List Token}
    (hspells : ∀ t ∈ ts, t.kind.Spells t.text) (hapart : ts.IsChain Token.Apart) (p : Nat) :
    ∃ us, Cut p (respelling symbols ts).toList us (p + (respelling symbols ts).length) [] ∧
      List.Forall₂ Token.Alike ts us ∧
      ∀ symbols' : Symbols, respelling symbols' us = respelling symbols' ts := by
  induction ts generalizing p with
  | nil => exact ⟨[], .here, .nil, fun _ => rfl⟩
  | cons t ts ih =>
      obtain ⟨ht, hts⟩ := List.forall_mem_cons.mp hspells
      obtain ⟨hhead, htail⟩ := List.isChain_cons.mp hapart
      -- behind a name comes the end, or a token that is no name
      have hends : t.kind = .identifier → EndsName (respelling symbols ts).toList := by
        intro hkind
        cases ts with
        | nil => exact endsName_nil
        | cons u ts =>
            rw [respelling_cons, String.toList_append]
            exact Token.endsName_respelled hsymbols (hts u (List.mem_cons_self ..))
              (hhead u rfl hkind) _
      obtain ⟨u, hfirst, halike, hsame⟩ := Token.cut_respelled hsymbols ht hends p
      obtain ⟨us, hrest, halikes, hsames⟩ := ih hts htail (p + (t.respelled symbols).length)
      refine ⟨u :: us, ?_, .cons halike halikes, ?_⟩
      · rw [respelling_cons, String.toList_append, String.length_append, ← Nat.add_assoc]
        exact hfirst.trans hrest
      · intro symbols'
        rw [respelling_cons, respelling_cons, hsame, hsames]

/-! ## Respelled texts -/

/-- A text that can be scanned can be respelled. -/
theorem respell_outcome {x : String} (hx : (scan x).illegal = none) (symbols : Symbols) :
    (respell symbols (some x)).outcome = .ok (respelling symbols (scan x).tokens) := by
  have htokens := tokenize_outcome x
  rw [hx] at htokens
  unfold respell
  rw [Script.outcome_bind, htokens]
  rfl

/-- A respelled text is scanned to its end. Its tokens are like those of the text with the names
that stand side by side glued, and spell the same in all symbols. -/
theorem scan_respelling (hsymbols : symbols.Readable) {x : String} (hx : (scan x).illegal = none) :
    (scan (respelling symbols (scan x).tokens)).illegal = none ∧
      List.Forall₂ Token.Alike (glued (scan x).tokens)
        (scan (respelling symbols (scan x).tokens)).tokens ∧
      ∀ symbols' : Symbols,
        respelling symbols' (scan (respelling symbols (scan x).tokens)).tokens =
          respelling symbols' (scan x).tokens := by
  have hspells := spells_glued (cut_of_scan hx).spells
  obtain ⟨us, hcut, halike, hsame⟩ := cut_respelling hsymbols hspells (isChain_glued _) 0
  rw [respelling_glued, Nat.zero_add] at hcut
  rw [scan_of_cut hcut]
  refine ⟨rfl, halike, ?_⟩
  intro symbols'
  rw [hsame, respelling_glued]

/-- Respelling keeps what a text means, and is stable. A text of which no two names stand side by
side, as in every formula, has alike tokens when it is respelled and is read alike; and whatever the
text, respelling it twice is respelling it in the symbols used last. -/
theorem respelling_is_read_alike_and_stable {x : String} (hx : (scan x).illegal = none) :
    (WellFormed (scan x).tokens → (scan x).tokens.IsChain Token.Apart) ∧
      ((scan x).tokens.IsChain Token.Apart → ∀ symbols ∈ [Symbols.ascii, .unicode],
        ∃ y, (respell symbols (some x)).outcome = .ok y ∧ (scan y).illegal = none ∧
          List.Forall₂ Token.Alike (scan x).tokens (scan y).tokens ∧
          ∀ limit : Limit, ReadAlike (scan x).tokens (scan y).tokens
            (parse (some x) limit).outcome (parse (some y) limit).outcome) ∧
      ∀ first ∈ [Symbols.ascii, .unicode], ∀ second ∈ [Symbols.ascii, .unicode],
        ∃ y z, (respell first (some x)).outcome = .ok y ∧
          (respell second (some y)).outcome = .ok z ∧
          (respell second (some x)).outcome = .ok z := by
  refine ⟨?_, ?_, ?_⟩
  · rintro ⟨f, d, hf⟩
    exact hf.isChain_apart
  · intro hapart symbols hsymbols
    obtain ⟨hscan, halike, -⟩ := scan_respelling (Symbols.readable hsymbols) hx
    rw [glued_of_isChain hapart] at halike
    exact ⟨_, respell_outcome hx symbols, hscan, halike, parse_alike hx hscan halike⟩
  · intro first hfirst second hsecond
    obtain ⟨hscan, -, hsame⟩ := scan_respelling (Symbols.readable hfirst) hx
    refine ⟨_, _, respell_outcome hx first, respell_outcome hscan second, ?_⟩
    rw [hsame, respell_outcome hx]

end Respelling

/-- A formula is the same formula in other symbols; two names in a row become one name, and stay
it. -/
theorem implications_are_respelled :
    (∃ y, (respell .unicode (some "A=>!B")).outcome = .ok y ∧ (parse (some y) (1 : Int)).outcome =
      .ok (.binary .implies (.var "A") (.neg (.var "B")))) ∧
      ∃ y, (respell .ascii (some "A B=>!C")).outcome = .ok y ∧
        (respell .unicode (some y)).outcome = .ok "AB -> ¬C" := by
  constructor
  · have hparse : (parse (some "A=>!B") (1 : Int)).outcome =
        .ok (.binary .implies (.var "A") (.neg (.var "B"))) := rfl
    have hwell : WellFormed (scan "A=>!B").tokens := by
      obtain ⟨text, d, htext, -, hf⟩ := derives_of_parse hparse
      obtain rfl := Option.some.inj htext
      exact ⟨_, d, hf⟩
    obtain ⟨hformula, happly, -⟩ := respelling_is_read_alike_and_stable (x := "A=>!B") rfl
    obtain ⟨y, hy, -, -, hread⟩ := happly (hformula hwell) .unicode (by simp)
    have hsame := hread (1 : Int)
    rw [hparse] at hsame
    refine ⟨y, hy, ?_⟩
    generalize (parse (some y) (1 : Int)).outcome = outcome at hsame
    cases hsame
    rfl
  · obtain ⟨-, -, hstable⟩ := respelling_is_read_alike_and_stable (x := "A B=>!C") rfl
    obtain ⟨y, z, hy, hz, hx⟩ := hstable .ascii (by simp) .unicode (by simp)
    have hwhole : (respell .unicode (some "A B=>!C")).outcome = .ok "AB -> ¬C" := rfl
    obtain rfl := Except.ok.inj (hx.symm.trans hwhole)
    exact ⟨y, hy, hz⟩

end Sentential
