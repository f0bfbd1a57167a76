/-
# Sentential.Proofs.Parser.Spelling -- what the parser does not look at

Two tokens are alike if they are of one kind and, if they are names, of one name; the places where
they stand and the spellings of signs are left open. A step of the parser is the same for two alike
tokens, and so is a step of the count of nesting. So over two lists of alike tokens both go through
the same states, and where one run stops the other one stops too, as many tokens behind the first.
What is left of the difference is only what a fault shows of the token that it points at. Texts with
the same lexemes are therefore read alike, whatever the white space and the spelling.
-/
import Mathlib.Data.List.Forall2
import Sentential.Proofs.Token.Wording

namespace Sentential

/-! ## Alike -/

/-- The tokens are of one kind and, if they are names, of one name. -/
structure Token.Alike (t u : Token) : Prop where
  kind : t.kind = u.kind
  name : t.kind = .identifier → t.text = u.text

/-- The two tokens have the same ordinal, each in its list. -/
def SameOrdinal (ts us : List Token) (t u : Token) : Prop :=
  ∃ k : Nat, ts[k]? = some t ∧ us[k]? = some u

/-- What a fault has counted: the groups left open, or the depth of a formula. -/
def Fault.count? : Fault → Option Nat
  | .unclosedGroups count => some count
  | .nestedTooDeep depth _ => some depth
  | _ => none

/-- The faults, found with two lists of tokens, are of one name and one count, and they point at
tokens of the same ordinal, or both at none. -/
structure Fault.Alike (ts us : List Token) (e e' : Fault) : Prop where
  name : e.name = e'.name
  count : e.count? = e'.count?
  token : Option.Rel (SameOrdinal ts us) e.token? e'.token?

/-- The outcomes of reading two lists of tokens are the same formula, or faults that are alike. -/
inductive ReadAlike (ts us : List Token) : Except Fault Formula → Except Fault Formula → Prop where
  | formula (f : Formula) : ReadAlike ts us (.ok f) (.ok f)
  | fault {e e' : Fault} : e.Alike ts us e' → ReadAlike ts us (.error e) (.error e')

theorem SameOrdinal.cons {ts us : List Token} {t u : Token} (h : SameOrdinal ts us t u)
    (t' u' : Token) : SameOrdinal (t' :: ts) (u' :: us) t u := by
  obtain ⟨k, ht, hu⟩ := h
  exact ⟨k + 1, ht, hu⟩

theorem Fault.Alike.refl {ts us : List Token} {e : Fault} (h : e.token? = none) :
    e.Alike ts us e := by
  refine ⟨rfl, rfl, ?_⟩
  rw [h]
  exact .none

section Lists

variable {ts us : List Token} (h : List.Forall₂ Token.Alike ts us)

include h

theorem getElem?_alike (k : Nat) : Option.Rel Token.Alike ts[k]? us[k]? := by
  induction h generalizing k with
  | nil => exact .none
  | cons htu _ ih =>
      cases k with
      | zero => exact .some htu
      | succ k => exact ih k

theorem getLast?_alike : Option.Rel Token.Alike ts.getLast? us.getLast? := by
  rw [List.getLast?_eq_getElem?, List.getLast?_eq_getElem?, h.length_eq]
  exact getElem?_alike h _

theorem Parser.countKind_alike (kind : TokenKind) : countKind kind ts = countKind kind us := by
  unfold countKind
  induction h with
  | nil => rfl
  | cons htu _ ih => rw [List.countP_cons, List.countP_cons, ih, htu.kind]

/-! ## Runs -/

/-- The count of nesting takes no notice of the texts of tokens. -/
theorem Nesting.over?_alike (n : Nesting) : n.over? ts = n.over? us := by
  induction h generalizing n with
  | nil => rfl
  | @cons t u _ _ htu _ ih =>
      have hnext : n.next? t = n.next? u := by
        unfold next?
        rw [htu.kind]
      unfold over?
      rw [hnext]
      cases n.next? u with
      | none => rfl
      | some next => exact ih next

end Lists

namespace Parser

theorem State.step?_alike {t u : Token} (h : t.Alike u) (state : State) :
    state.step? t = state.step? u := by
  rcases state with ⟨stack, _ | f⟩
  · show State.begin? stack t = State.begin? stack u
    unfold State.begin?
    rw [← h.kind]
    cases hkind : t.kind with
    | identifier => rw [h.name hkind]
    | _ => rfl
  · show State.continue? stack f t = State.continue? stack f u
    unfold State.continue?
    rw [h.kind]

/-- Two runs over alike tokens end in the same state, or stop at tokens of the same ordinal. -/
theorem State.run_alike {ts us : List Token} (h : List.Forall₂ Token.Alike ts us) (state : State) :
    (∃ last, state.run ts = .ok last ∧ state.run us = .ok last) ∨
      ∃ t u, state.run ts = .error t ∧ state.run us = .error u ∧ SameOrdinal ts us t u := by
  induction h generalizing state with
  | nil => exact .inl ⟨state, rfl, rfl⟩
  | @cons t u ts us htu _ ih =>
      rw [State.run, State.run, ← State.step?_alike htu]
      cases state.step? t with
      | none => exact .inr ⟨t, u, rfl, rfl, 0, rfl, rfl⟩
      | some next =>
          rcases ih next with hlast | ⟨t', u', ht', hu', hsame⟩
          · exact .inl hlast
          · exact .inr ⟨t', u', ht', hu', hsame.cons t u⟩

/-- Alike tokens end too early in the same way. -/
theorem endFault_alike {ts us : List Token} (h : List.Forall₂ Token.Alike ts us) :
    (endFault ts).Alike ts us (endFault us) := by
  have hlast := getLast?_alike h
  have htoken := (endFault_spec ts).2.2.1
  have htoken' := (endFault_spec us).2.2.1
  have hsame : (endFault ts).name = (endFault us).name ∧
      (endFault ts).count? = (endFault us).count? := by
    unfold endFault
    rw [countKind_alike h, countKind_alike h]
    generalize ts.getLast? = last at hlast ⊢
    generalize us.getLast? = last' at hlast ⊢
    cases hlast with
    | none => exact ⟨rfl, rfl⟩
    | some htu =>
        simp only [htu.kind]
        split <;> exact ⟨rfl, rfl⟩
  refine ⟨hsame.1, hsame.2, ?_⟩
  rw [htoken, htoken']
  exact .none

end Parser

/-! ## Readings -/

namespace Reader

/-- The check of the depth points at no token. -/
theorem token?_of_depth {reader : Reader} {e : Fault} (he : reader.depth = .error e) :
    e.token? = none := by
  unfold depth at he
  split at he
  · obtain rfl := Except.error.inj he
    rfl
  · next d _ =>
      cases hcheck : reader.maxDepth.check d (.nestedTooDeep d) with
      | ok _ =>
          rw [hcheck] at he
          exact absurd he (by simp [Except.map])
      | error fault =>
          rw [hcheck] at he
          obtain rfl : fault = e := Except.error.inj he
          rcases Limit.check_eq_error hcheck with rfl | ⟨bound, rfl⟩ <;> rfl

section Lists

variable {ts us : List Token} (h : List.Forall₂ Token.Alike ts us) (limit : Limit)

include h

/-- Alike tokens are as deeply nested. -/
theorem depth_alike : depth ⟨limit, ts⟩ = depth ⟨limit, us⟩ := by
  have hdepth : nestingDepth? ts = nestingDepth? us := Nesting.start.over?_alike h
  unfold depth
  simp only [hdepth]

/-- Alike tokens make the same formula, or are refused with faults that are alike. -/
theorem formula_alike :
    (∃ f, formula ⟨limit, ts⟩ = .ok f ∧ formula ⟨limit, us⟩ = .ok f) ∨
      ∃ e e', formula ⟨limit, ts⟩ = .error e ∧ formula ⟨limit, us⟩ = .error e' ∧
        e.isFormulaFault ∧ e'.isFormulaFault ∧ e.Alike ts us e' := by
  unfold formula
  rcases Parser.State.run_alike h .start with ⟨last, hts, hus⟩ | ⟨t, u, hts, hus, hsame⟩
  · rw [hts, hus]
    cases hresult : last.result? with
    | some f =>
        left
        simp only [hresult]
        exact ⟨f, rfl, rfl⟩
    | none =>
        right
        simp only [hresult]
        exact ⟨_, _, rfl, rfl, (Parser.endFault_spec ts).2.1, (Parser.endFault_spec us).2.1,
          Parser.endFault_alike h⟩
  · right
    rw [hts, hus]
    exact ⟨_, _, rfl, rfl, rfl, rfl, rfl, rfl, .some hsame⟩

/-- Alike tokens are read alike. -/
theorem interpret_alike :
    ReadAlike ts us (reported (interpret ⟨limit, ts⟩).outcome)
      (reported (interpret ⟨limit, us⟩).outcome) := by
  rcases formula_alike h limit with ⟨f, hf, hf'⟩ | ⟨e, e', he, he', hformula, hformula', halike⟩
  · rw [interpret_outcome, interpret_outcome, hf, hf', ← depth_alike h limit]
    cases hdepth : depth ⟨limit, ts⟩ with
    | ok d => exact .formula f
    | error e =>
        apply ReadAlike.fault
        apply Fault.Alike.refl
        split
        · exact token?_of_depth hdepth
        · rfl
  · rw [interpret_of_error he, interpret_of_error he', reported_error hformula,
      reported_error hformula']
    exact .fault halike

end Lists

end Reader

/-- Texts whose tokens are alike are read alike. -/
theorem parse_alike {x y : String} (hx : (scan x).illegal = none) (hy : (scan y).illegal = none)
    (h : List.Forall₂ Token.Alike (scan x).tokens (scan y).tokens) (limit : Limit) :
    ReadAlike (scan x).tokens (scan y).tokens (parse (some x) limit).outcome
      (parse (some y) limit).outcome := by
  rw [parse_of_scan hx, parse_of_scan hy]
  exact Reader.interpret_alike h limit

theorem Fault.eq_of_token? {e : Fault} {t : Token} (h : e.token? = some t) :
    e = .unexpectedToken t := by
  cases e with
  | unexpectedToken u => exact congrArg Fault.unexpectedToken (Option.some.inj h)
  | _ => exact absurd h (by simp [Fault.token?])

/-- Neither white space nor spelling changes what a text means. The tokens of a text that is put
together from lexemes and gaps are these lexemes at their places, and two such texts whose lexemes
are of the same kinds and names are read alike under every limit. -/
theorem wordings_are_read_by_their_lexemes :
    (∀ w : Wording, (tokenize (some w.text)).outcome = .ok w.tokens) ∧
      ∀ w w' : Wording, List.Forall₂ Token.Alike w.tokens w'.tokens → ∀ limit : Limit,
        ReadAlike w.tokens w'.tokens (parse (some w.text) limit).outcome
          (parse (some w'.text) limit).outcome := by
  refine ⟨Wording.tokenize_text, ?_⟩
  intro w w' h limit
  have hscan := w.scan_text
  have hscan' := w'.scan_text
  have hread := @parse_alike w.text w'.text
  rw [hscan, hscan'] at hread
  exact hread rfl rfl h limit

/-- Two arrows in a row are refused at the second, with or without gaps around them. -/
theorem adjacent_arrows_are_refused_alike :
    ∃ w w' : Wording, w.text = "A<=>=>" ∧ w'.text = " A <-> ->" ∧
      List.Forall₂ Token.Alike w.tokens w'.tokens ∧
      ∃ u, (parse (some " A <-> ->") (200 : Int)).outcome = .error (.unexpectedToken u) ∧
        SameOrdinal w.tokens w'.tokens ⟨.connective .implies, "=>", 4⟩ u := by
  have hname : IsName "A" := ⟨'A', [], rfl, rfl, List.all_eq_true.mp rfl⟩
  have hiff : ∀ sign ∈ ["<->", "<=>"], (TokenKind.connective .iff).Spells sign :=
    fun _ hsign => hsign
  have himplies : ∀ sign ∈ ["->", "=>"], (TokenKind.connective .implies).Spells sign :=
    fun _ hsign => hsign
  have hnone : IsGap "" := List.all_eq_true.mp rfl
  have hblank : IsGap " " := List.all_eq_true.mp rfl
  let w : Wording :=
    ⟨[⟨"", ⟨.identifier, "A", hname⟩, hnone⟩,
      ⟨"", ⟨.connective .iff, "<=>", hiff _ (by simp)⟩, hnone⟩,
      ⟨"", ⟨.connective .implies, "=>", himplies _ (by simp)⟩, hnone⟩],
      "", by simp [Spaced.Parted], hnone⟩
  let w' : Wording :=
    ⟨[⟨" ", ⟨.identifier, "A", hname⟩, hblank⟩,
      ⟨" ", ⟨.connective .iff, "<->", hiff _ (by simp)⟩, hblank⟩,
      ⟨" ", ⟨.connective .implies, "->", himplies _ (by simp)⟩, hblank⟩],
      "", by simp [Spaced.Parted], hnone⟩
  have htext : w.text = "A<=>=>" := rfl
  have htext' : w'.text = " A <-> ->" := rfl
  have halike : List.Forall₂ Token.Alike w.tokens w'.tokens :=
    .cons ⟨rfl, fun _ => rfl⟩ (.cons ⟨rfl, by simp⟩ (.cons ⟨rfl, by simp⟩ .nil))
  have hparse : (parse (some "A<=>=>") (200 : Int)).outcome =
      .error (.unexpectedToken ⟨.connective .implies, "=>", 4⟩) := rfl
  have hread := wordings_are_read_by_their_lexemes.2 w w' halike (200 : Int)
  refine ⟨w, w', htext, htext', halike, ?_⟩
  rw [htext, htext', hparse] at hread
  generalize (parse (some " A <-> ->") (200 : Int)).outcome = outcome at hread
  cases hread with
  | @fault _ e' hfault =>
      have htoken : Option.Rel (SameOrdinal w.tokens w'.tokens) (some _) e'.token? := hfault.token
      generalize hu : e'.token? = found at htoken
      cases htoken with
      | some hsame => exact ⟨_, congrArg Except.error (Fault.eq_of_token? hu), hsame⟩

end Sentential
