/-
# Sentential.Proofs.Parser.Reuse -- a reader can be used again

A reader remembers tokens, and takes from its memory what it reports at the end of a text and what
it measures the depth of. A text that cannot be scanned leaves there what an earlier text has put
in. All the same no text is read differently for those before it: whenever a reader comes to look at
its memory, the tokens of the present text are in it, since a text that has none is refused before
that. Only the depth limit has to be kept, and every reading keeps it.
-/
import Sentential.Parser.Reader

namespace Sentential

/-- The tokens of a text, if it can be scanned to its end. -/
def Source.tokens? (source : Source) : Option (List Token) := (tokenize source).outcome.toOption

namespace Reader

/-- The reader that is left when texts have been read one after another. -/
def after (reader : Reader) (sources : List Source) : Reader :=
  sources.foldl (fun reader source => (reader.read source).1) reader

/-! ## One text -/

/-- A text that can be scanned replaces what was remembered before it is interpreted. -/
theorem read_of_tokens (reader : Reader) {source : Source} {scanned : List Token}
    (h : (tokenize source).outcome = .ok scanned) :
    reader.read source = (⟨reader.maxDepth, scanned⟩,
      Script.detail ("Parsing formula: " ++ source.shown) >>= fun _ =>
        tokenize source >>= fun _ => interpret ⟨reader.maxDepth, scanned⟩) := by
  simp only [read, h]

/-- Any other text leaves the reader as it is, and is not interpreted. -/
theorem read_of_fault (reader : Reader) {source : Source} {fault : Fault}
    (h : (tokenize source).outcome = .error fault) :
    reader.read source = (reader,
      Script.detail ("Parsing formula: " ++ source.shown) >>= fun _ =>
        tokenize source >>= fun _ => .fail fault) := by
  simp only [read, h]

/-- The limit stays, and the memory holds the tokens of the text if it has any. -/
theorem read_fst (reader : Reader) (source : Source) :
    (reader.read source).1 = ⟨reader.maxDepth, source.tokens?.getD reader.scanned⟩ := by
  rw [Source.tokens?]
  cases h : (tokenize source).outcome with
  | ok scanned => rw [reader.read_of_tokens h]; rfl
  | error fault => rw [reader.read_of_fault h]; rfl

/-- What is said and found about a text does not depend on the memory of the reader. -/
theorem read_snd (reader : Reader) (source : Source) :
    (reader.read source).2 = ((new reader.maxDepth).read source).2 := by
  cases h : (tokenize source).outcome with
  | ok scanned => rw [reader.read_of_tokens h, read_of_tokens _ h]; rfl
  | error fault => rw [reader.read_of_fault h, read_of_fault _ h]

/-- A text is interpreted with its own tokens in memory; if it has none, it fails as its scan
does. -/
theorem read_outcome (reader : Reader) (source : Source) :
    (reader.read source).2.outcome = (tokenize source).outcome.bind fun scanned =>
      (interpret ⟨reader.maxDepth, scanned⟩).outcome := by
  cases h : (tokenize source).outcome with
  | ok scanned =>
      rw [reader.read_of_tokens h, Script.outcome_bind, Script.outcome_detail]
      show (tokenize source >>= _).outcome = _
      rw [Script.outcome_bind, h]
      rfl
  | error fault =>
      rw [reader.read_of_fault h, Script.outcome_bind, Script.outcome_detail]
      show (tokenize source >>= _).outcome = _
      rw [Script.outcome_bind, h]
      rfl

/-! ## Texts one after another -/

/-- The limit stays, and the memory holds the tokens of the last text that could be scanned. -/
theorem after_eq (reader : Reader) (sources : List Source) :
    reader.after sources =
      ⟨reader.maxDepth, (sources.filterMap Source.tokens?).getLast?.getD reader.scanned⟩ := by
  induction sources generalizing reader with
  | nil => rfl
  | cons source rest ih =>
      have hstep : reader.after (source :: rest) = (reader.read source).1.after rest := rfl
      rw [hstep, ih, read_fst]
      cases htokens : source.tokens? with
      | none => rw [List.filterMap_cons_none htokens, Option.getD_none]
      | some scanned =>
          rw [List.filterMap_cons_some htokens, List.getLast?_cons, Option.getD_some,
            Option.getD_some]

/-- Every text is read as by a reader of its own. -/
theorem readAll_eq (reader : Reader) (sources : List Source) :
    reader.readAll sources = sources.map fun source => ((new reader.maxDepth).read source).2 := by
  induction sources generalizing reader with
  | nil => rfl
  | cons source rest ih =>
      have hstep : reader.readAll (source :: rest) =
          (reader.read source).2 :: (reader.read source).1.readAll rest := rfl
      rw [hstep, ih, read_fst, read_snd, List.map_cons]

/-- A reader that is used for one text after another says and finds about each of them what a new
one with its limit does. After any texts it still has its limit, and it remembers the tokens of the
last of them that could be scanned; whatever it remembers, a further text is judged by its own
tokens, or by its scan if it has none. -/
theorem reused_reader_reads_like_a_new_one (limit : Limit) (sources : List Source) :
    (new limit).readAll sources = sources.map (fun source => ((new limit).read source).2) ∧
    ((new limit).after sources).maxDepth = limit ∧
    ((new limit).after sources).scanned =
      (sources.filterMap Source.tokens?).getLast?.getD [] ∧
    ∀ source : Source,
      (((new limit).after sources).read source).2 = ((new limit).read source).2 ∧
      (((new limit).after sources).read source).2.outcome =
        (tokenize source).outcome.bind fun scanned => (interpret ⟨limit, scanned⟩).outcome := by
  have hafter := after_eq (new limit) sources
  refine ⟨readAll_eq (new limit) sources, ?_, ?_, ?_⟩
  · rw [hafter]
    rfl
  · rw [hafter]
    rfl
  · intro source
    rw [hafter]
    exact ⟨read_snd _ source, read_outcome _ source⟩

/-- A text that ends after an operand, one with an illegal character, and one that ends after a
negation: the last is told of its own last token, not of the group that the first has left open. -/
example : ((new (200 : Int)).readAll [some "(A", some "A ? B", some "~"]).map Script.outcome =
    [.error (.unclosedGroups 1), .error (.illegalCharacter '?' 2),
      .error (.missingOperand "~")] :=
  rfl

end Reader

end Sentential
