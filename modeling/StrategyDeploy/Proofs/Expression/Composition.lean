import StrategyDeploy.Expression.Compose
import StrategyDeploy.Proofs.Expression.Sections
import StrategyDeploy.Proofs.Expression.Words
import StrategyDeploy.Proofs.Except

/-! Composition, said through the words of code. -/
namespace StrategyDeploy

variable {ε α β : Type}

theorem Except.exists_ok_iff {x : Except ε α} : (∃ a, x = .ok a) ↔ ∀ e, x ≠ .error e := by
  cases x <;> simp

theorem List.mapM_eq_ok_map_iff {f : α → Except ε β} {g : α → β}
    (hg : ∀ x y, f x = .ok y → y = g x) {xs : List α} {ys : List β} :
    xs.mapM f = .ok ys ↔ (∀ x ∈ xs, ∃ y, f x = .ok y) ∧ ys = xs.map g := by
  constructor
  · intro h
    refine ⟨List.ok_of_mapM_eq_ok h, ?_⟩
    have pairs := List.mapM_eq_ok_iff.mp h
    clear h
    induction pairs with
    | nil => rfl
    | cons hx _ ih => rw [List.map_cons, ← ih, ← hg _ _ hx]
  · rintro ⟨ok, rfl⟩
    refine List.mapM_eq_ok_iff.mpr ?_
    rw [List.forall₂_map_right_iff, List.forall₂_same]
    intro x hx
    obtain ⟨y, hy⟩ := ok x hx
    exact hg x y hy ▸ hy

end StrategyDeploy

namespace StrategyDeploy.Expression

open StrategyDeploy.Text

/-- The body of the first section of a name. -/
def lookup (e : Expression) (name : String) : Option SectionBody :=
  (e.sections.find? (·.name == name)).map (·.body)

/-- A word that refers, through the first section of its name, to an elided binding with this
message, and that no value is supplied for. -/
def Unbound (e : Expression) (b : Bindings) (word message : String) : Prop :=
  e.lookup word = some (.elided message) ∧ b.get? word = none

/-- What a piece of code becomes: a word whose first section is a binding becomes the value
supplied for it, or else the literal's own text; every other piece stays as it is. -/
def rewrite (e : Expression) (b : Bindings) : Piece → List Char
  | .word w =>
    match e.lookup (String.ofList w) with
    | some (.literal value) => ((b.get? (String.ofList w)).getD value).toList
    | some (.elided _) => ((b.get? (String.ofList w)).map String.toList).getD w
    | _ => w
  | .mark c => [c]

/-- Code with every word rewritten. -/
def substituted (e : Expression) (b : Bindings) (code : String) : String :=
  String.ofList ((pieces code.toList).map (e.rewrite b)).flatten

/-- An entrypoint that composes: it has a code section, and no word of the first one is
unbound. -/
def Composes (e : Expression) (b : Bindings) (name : String) : Prop :=
  ∃ code, e.code? name = some code ∧ ∀ w ∈ codeWords code, ∀ message, ¬e.Unbound b w message

/-- How an entrypoint fails to compose: it has no code section, or the first unbound word of its
code names the binding. -/
def FailsWith (e : Expression) (b : Bindings) (name : String) (err : ComposeError) : Prop :=
  match e.code? name with
  | none => err = .missingEntrypoint name
  | some code => ∃ before w after message, codeWords code = before ++ w :: after ∧
      (∀ u ∈ before, ∀ m, ¬e.Unbound b u m) ∧ e.Unbound b w message ∧
      err = .unboundBinding w message

/-- An entrypoint rendered with its number. -/
def renderedEntry (e : Expression) (b : Bindings) : String × Nat → String
  | (name, i) => s!"/* {i}. {name} */ \n" ++ e.substituted b ((e.code? name).getD "")

/-- The entrypoints rendered, numbered from zero and separated by blank lines. -/
def composedText (e : Expression) (b : Bindings) (entrypoints : List String) : String :=
  "\n\n".intercalate (entrypoints.zipIdx.map (e.renderedEntry b))

/-- What substitution makes of one piece. -/
def pieceResult (e : Expression) (b : Bindings) : Piece → Except ComposeError (List Char)
  | .word w => (fun v => (v.map String.toList).getD w) <$> e.resolve b (String.ofList w)
  | .mark c => .ok [c]

variable {e : Expression} {b : Bindings}

section Words

theorem resolve_eq_error_iff {word : String} {err : ComposeError} :
    e.resolve b word = .error err ↔
      ∃ message, e.Unbound b word message ∧ err = .unboundBinding word message := by
  unfold resolve Unbound lookup
  cases e.sections.find? (·.name == word) with
  | none => simp
  | some s =>
    obtain ⟨name, body⟩ := s
    cases body with
    | code text => simp
    | literal value => simp
    | elided message => cases b.get? word <;> simp [eq_comm]

theorem rewrite_of_resolve {w : List Char} {v : Option String}
    (h : e.resolve b (String.ofList w) = .ok v) :
    (v.map String.toList).getD w = e.rewrite b (.word w) := by
  unfold resolve at h
  simp only [rewrite, lookup]
  cases hs : e.sections.find? (·.name == String.ofList w) with
  | none =>
    rw [hs] at h
    cases h
    rfl
  | some s =>
    rw [hs] at h
    obtain ⟨name, body⟩ := s
    cases body with
    | code text =>
      cases h
      rfl
    | literal value =>
      cases h
      simp
    | elided message =>
      cases given : b.get? (String.ofList w) with
      | none => simp [given] at h
      | some value =>
        simp only [given] at h
        cases h
        simp

theorem pieceResult_eq_error_iff {p : Piece} {err : ComposeError} :
    e.pieceResult b p = .error err ↔
      ∃ w message, p.name? = some w ∧ e.Unbound b w message ∧ err = .unboundBinding w message := by
  cases p with
  | word w => simp [pieceResult, Piece.name?, Except.map_eq_error, resolve_eq_error_iff]
  | mark c => simp [pieceResult, Piece.name?]

theorem pieceResult_ok {p : Piece} {y : List Char} (h : e.pieceResult b p = .ok y) :
    y = e.rewrite b p := by
  cases p with
  | word w =>
    obtain ⟨v, hv, rfl⟩ := Except.map_eq_ok.mp h
    exact rewrite_of_resolve hv
  | mark c =>
    cases h
    rfl

theorem exists_pieceResult_ok_iff {p : Piece} :
    (∃ y, e.pieceResult b p = .ok y) ↔ ∀ w, p.name? = some w → ∀ m, ¬e.Unbound b w m := by
  rw [Except.exists_ok_iff]
  simp only [ne_eq, pieceResult_eq_error_iff, not_exists, not_and]
  constructor
  · intro ok w named m unbound
    exact ok _ w m named unbound rfl
  · intro ok err w m named unbound _
    exact ok w named m unbound

theorem flushWord_eq (acc : List Char) :
    e.flushWord b acc = if acc = [] then .ok [] else e.pieceResult b (.word acc.reverse) := by
  unfold flushWord pieceResult
  by_cases empty : acc = []
  · simp [empty]
  · simp only [List.isEmpty_iff, empty, if_false]
    rcases e.resolve b (String.ofList acc.reverse) with err | _ | v <;> rfl

theorem substituteFrom_eq {acc : List Char} (hacc : ∀ c ∈ acc, isWordChar c = true)
    (code : List Char) :
    e.substituteFrom b acc code =
      List.flatten <$> (pieces (acc.reverse ++ code)).mapM (e.pieceResult b) := by
  have word : ∀ c ∈ acc.reverse, isWordChar c = true := by simpa using hacc
  induction code generalizing acc with
  | nil =>
    rw [List.append_nil, substituteFrom, flushWord_eq, ← List.append_nil acc.reverse,
      pieces_word_then word (by simp [pieces])]
    by_cases empty : acc = []
    · simp [empty, pieces, pure, Except.pure, Functor.map, Except.map]
    · simp only [empty, if_false, List.reverse_eq_nil_iff, pieces, List.append_nil,
        List.mapM_cons, List.mapM_nil]
      cases e.pieceResult b (.word acc.reverse) <;>
        simp [bind, Except.bind, pure, Except.pure, Functor.map, Except.map]
  | cons c rest ih =>
    by_cases named : isWordChar c = true
    · have longer : ∀ d ∈ c :: acc, isWordChar d = true := List.forall_mem_cons.mpr ⟨named, hacc⟩
      rw [substituteFrom, if_pos named, @ih (c :: acc) longer
        (fun d hd => longer d (List.mem_reverse.mp hd))]
      simp
    · have mark : isWordChar c = false := by simpa using named
      rw [substituteFrom, if_neg named, @ih [] (by simp) (by simp), List.reverse_nil,
        List.nil_append, pieces_word_then word (by simp [pieces_mark mark, Piece.isWord]),
        pieces_mark mark, flushWord_eq]
      by_cases empty : acc = []
      · simp only [empty, if_true, List.reverse_nil, List.nil_append, List.mapM_cons]
        cases (pieces rest).mapM (e.pieceResult b) <;> rfl
      · simp only [empty, if_false, List.reverse_eq_nil_iff, List.singleton_append,
          List.mapM_cons]
        cases e.pieceResult b (.word acc.reverse) <;>
          cases (pieces rest).mapM (e.pieceResult b) <;> rfl

theorem substitute_eq (code : String) :
    e.substitute b code =
      String.ofList <$> (List.flatten <$> (pieces code.toList).mapM (e.pieceResult b)) := by
  rw [substitute, substituteFrom_eq (by simp)]
  rfl

theorem forall_codeWords_iff {code : String} {P : String → Prop} :
    (∀ w ∈ codeWords code, P w) ↔ ∀ p ∈ pieces code.toList, ∀ w, p.name? = some w → P w := by
  simp only [codeWords, List.mem_filterMap]
  constructor
  · intro h p hp w named
    exact h w ⟨p, hp, named⟩
  · rintro h w ⟨p, hp, named⟩
    exact h p hp w named

theorem substitute_eq_ok_iff {code out : String} :
    e.substitute b code = .ok out ↔
      (∀ w ∈ codeWords code, ∀ m, ¬e.Unbound b w m) ∧ out = e.substituted b code := by
  rw [substitute_eq, Except.map_eq_ok, forall_codeWords_iff]
  simp only [← exists_pieceResult_ok_iff]
  constructor
  · rintro ⟨ys, made, rfl⟩
    obtain ⟨zs, hz, rfl⟩ := Except.map_eq_ok.mp made
    obtain ⟨ok, rfl⟩ := (List.mapM_eq_ok_map_iff fun _ _ made => pieceResult_ok made).mp hz
    exact ⟨ok, rfl⟩
  · rintro ⟨ok, rfl⟩
    have mapped := (List.mapM_eq_ok_map_iff fun _ _ made => pieceResult_ok made).mpr ⟨ok, rfl⟩
    exact ⟨_, Except.map_eq_ok.mpr ⟨_, mapped, rfl⟩, rfl⟩

theorem exists_first_failure_iff {ps : List Piece} {err : ComposeError} :
    (∃ pre p post, ps = pre ++ p :: post ∧ (∀ q ∈ pre, ∃ y, e.pieceResult b q = .ok y) ∧
        e.pieceResult b p = .error err) ↔
      ∃ before w after message, ps.filterMap Piece.name? = before ++ w :: after ∧
        (∀ u ∈ before, ∀ m, ¬e.Unbound b u m) ∧ e.Unbound b w message ∧
        err = .unboundBinding w message := by
  simp only [exists_pieceResult_ok_iff, pieceResult_eq_error_iff]
  constructor
  · rintro ⟨pre, p, post, rfl, ok, w, message, named, unbound, rfl⟩
    refine ⟨pre.filterMap Piece.name?, w, post.filterMap Piece.name?, message, ?_, ?_, unbound, rfl⟩
    · simp [List.filterMap_append, named]
    · intro u hu m
      obtain ⟨q, hq, named⟩ := List.mem_filterMap.mp hu
      exact ok q hq u named m
  · rintro ⟨before, w, after, message, split, ok, unbound, rfl⟩
    obtain ⟨front, back, rfl, hfront, hback⟩ := List.filterMap_eq_append_iff.mp split
    obtain ⟨marks, p, post, rfl, unnamed, named, -⟩ := List.filterMap_eq_cons_iff.mp hback
    refine ⟨front ++ marks, p, post, by simp, ?_, w, message, named, unbound, rfl⟩
    intro q hq u named' m
    rcases List.mem_append.mp hq with hq | hq
    · exact ok u (hfront ▸ List.mem_filterMap.mpr ⟨q, hq, named'⟩) m
    · rw [unnamed q hq] at named'
      cases named'

theorem substitute_eq_error_iff {code : String} {err : ComposeError} :
    e.substitute b code = .error err ↔
      ∃ before w after message, codeWords code = before ++ w :: after ∧
        (∀ u ∈ before, ∀ m, ¬e.Unbound b u m) ∧ e.Unbound b w message ∧
        err = .unboundBinding w message := by
  rw [substitute_eq, Except.map_eq_error, Except.map_eq_error, List.mapM_eq_error_iff,
    exists_first_failure_iff, codeWords]

end Words

section Entrypoints

variable {name : String} {i : Nat}

theorem renderEntrypoint_eq_ok_iff {t : String} :
    e.renderEntrypoint b i name = .ok t ↔ e.Composes b name ∧ t = e.renderedEntry b (name, i) := by
  unfold renderEntrypoint Composes renderedEntry
  cases hc : e.code? name with
  | none => simp
  | some code =>
    simp only [hc, Except.bind_eq_ok, substitute_eq_ok_iff, Option.getD_some, Option.some.injEq,
      exists_eq_left']
    constructor
    · rintro ⟨text, ⟨ok, rfl⟩, made⟩
      cases made
      exact ⟨ok, rfl⟩
    · rintro ⟨ok, rfl⟩
      exact ⟨_, ⟨ok, rfl⟩, rfl⟩

theorem renderEntrypoint_eq_error_iff {err : ComposeError} :
    e.renderEntrypoint b i name = .error err ↔ e.FailsWith b name err := by
  unfold renderEntrypoint FailsWith
  cases hc : e.code? name with
  | none => simp [eq_comm]
  | some code =>
    simp only
    rw [← substitute_eq_error_iff]
    cases e.substitute b code <;> simp [bind, Except.bind, pure, Except.pure]

variable {names : List String}

theorem renderFrom_eq_ok_iff {ts : List String} :
    e.renderFrom b i names = .ok ts ↔
      (∀ n ∈ names, e.Composes b n) ∧ ts = (names.zipIdx i).map (e.renderedEntry b) := by
  induction names generalizing i ts with
  | nil => simp [renderFrom, eq_comm]
  | cons n names ih =>
    simp only [renderFrom, Except.bind_eq_ok, renderEntrypoint_eq_ok_iff, ih, List.zipIdx_cons,
      List.map_cons, List.forall_mem_cons]
    constructor
    · rintro ⟨t, ⟨first, rfl⟩, others, ⟨rest, rfl⟩, made⟩
      cases made
      exact ⟨⟨first, rest⟩, rfl⟩
    · rintro ⟨⟨first, rest⟩, rfl⟩
      exact ⟨_, ⟨first, rfl⟩, _, ⟨rest, rfl⟩, rfl⟩

theorem renderFrom_eq_error_iff {err : ComposeError} :
    e.renderFrom b i names = .error err ↔
      ∃ pre n post, names = pre ++ n :: post ∧ (∀ m ∈ pre, e.Composes b m) ∧
        e.FailsWith b n err := by
  induction names generalizing i with
  | nil => simp [renderFrom]
  | cons n names ih =>
    have composes : (∃ t, e.renderEntrypoint b i n = .ok t) ↔ e.Composes b n := by
      simp only [renderEntrypoint_eq_ok_iff, exists_eq_right]
    rw [renderFrom, Except.bind_cons_eq_error_iff, ih, renderEntrypoint_eq_error_iff, composes,
      List.exists_first_cons_iff]

theorem compose_eq_ok_iff {out : String} :
    e.compose b names = .ok out ↔ (∀ n ∈ names, e.Composes b n) ∧ out = e.composedText b names := by
  show ("\n\n".intercalate <$> e.renderFrom b 0 names) = .ok out ↔ _
  rw [Except.map_eq_ok]
  simp only [renderFrom_eq_ok_iff, composedText]
  constructor
  · rintro ⟨ts, ⟨ok, rfl⟩, rfl⟩
    exact ⟨ok, rfl⟩
  · rintro ⟨ok, rfl⟩
    exact ⟨_, ⟨ok, rfl⟩, rfl⟩

/- A literal's name inside a longer word is not a reference to it. -/
example :
    (parse "#amount 5\n#calculate-io\n_ _: amount-max amount;\n#handle-io\n:;").compose []
        orderEntrypoints =
      .ok "/* 0. calculate-io */ \n_ _: amount-max 5;\n\n/* 1. handle-io */ \n:;" := by
  decide

theorem compose_eq_error_iff {err : ComposeError} :
    e.compose b names = .error err ↔
      ∃ pre n post, names = pre ++ n :: post ∧ (∀ m ∈ pre, e.Composes b m) ∧
        e.FailsWith b n err := by
  show ("\n\n".intercalate <$> e.renderFrom b 0 names) = .error err ↔ _
  rw [Except.map_eq_error, renderFrom_eq_error_iff]

end Entrypoints

/-- A parsed body has one section for each header line, and composing entrypoints over it reads
each entrypoint's first code section word by word, the words being the maximal runs of name
characters: composing succeeds exactly when every entrypoint has a code section and no word of it
is unbound, and then gives the numbered entrypoints with their words rewritten and separated by
blank lines; otherwise it fails as the first entrypoint that does not compose. -/
theorem parsed_body_composes_by_words (body : String) (b : Bindings) (entrypoints : List String) :
    (∀ sections, (parse body).sections = sections ↔ ∃ pre groups,
      Outline (lines body.toList) pre groups ∧ sections = groups.map fun g => headerSection g.1 g.2) ∧
    (∀ code ps, pieces code = ps ↔ Tokenization ps code) ∧
    (∀ out, (parse body).compose b entrypoints = .ok out ↔
      (∀ n ∈ entrypoints, (parse body).Composes b n) ∧
        out = (parse body).composedText b entrypoints) ∧
    (∀ err, (parse body).compose b entrypoints = .error err ↔
      ∃ pre n post, entrypoints = pre ++ n :: post ∧ (∀ m ∈ pre, (parse body).Composes b m) ∧
        (parse body).FailsWith b n err) :=
  ⟨parse_sections_iff body, fun _ _ => pieces_eq_iff, fun _ => compose_eq_ok_iff,
    fun _ => compose_eq_error_iff⟩

end StrategyDeploy.Expression
