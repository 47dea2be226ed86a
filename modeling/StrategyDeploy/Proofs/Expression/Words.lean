import StrategyDeploy.Expression.Basic
import Mathlib.Data.List.Chain

/-! Words of code. -/
namespace StrategyDeploy.Expression

/-- A piece of code: a word, or one character that cannot be part of a word. -/
inductive Piece where
  | word (chars : List Char)
  | mark (c : Char)
  deriving Repr, DecidableEq

namespace Piece

/-- The characters a piece spells. -/
def text : Piece → List Char
  | word w => w
  | mark c => [c]

def isWord : Piece → Bool
  | word _ => true
  | mark _ => false

/-- The name a word spells. -/
def name? : Piece → Option String
  | word w => some (String.ofList w)
  | mark _ => none

/-- Puts a name character before pieces: it extends a leading word, or starts one. -/
def extend (c : Char) : List Piece → List Piece
  | word w :: ps => word (c :: w) :: ps
  | ps => word [c] :: ps

end Piece

/-- Pieces that spell code: words of name characters, a mark for each other character, and no
two words side by side, so that every word is a maximal run. -/
structure Tokenization (ps : List Piece) (code : List Char) : Prop where
  spells : (ps.map Piece.text).flatten = code
  words : ∀ w, Piece.word w ∈ ps → w ≠ [] ∧ ∀ c ∈ w, isWordChar c = true
  marks : ∀ c, Piece.mark c ∈ ps → isWordChar c = false
  apart : ps.IsChain fun p q => ¬(p.isWord = true ∧ q.isWord = true)

/-- The pieces of code. -/
def pieces : List Char → List Piece
  | [] => []
  | c :: rest => if isWordChar c then Piece.extend c (pieces rest) else .mark c :: pieces rest

/-- The words of code, in order. -/
def codeWords (code : String) : List String :=
  (pieces code.toList).filterMap Piece.name?

theorem pieces_mark {c : Char} (hc : isWordChar c = false) (rest : List Char) :
    pieces (c :: rest) = .mark c :: pieces rest := by
  simp [pieces, hc]

theorem pieces_word_append {w : List Char} (hw : ∀ c ∈ w, isWordChar c = true)
    (rest : List Char) : pieces (w ++ rest) = w.foldr Piece.extend (pieces rest) := by
  induction w with
  | nil => rfl
  | cons c w ih =>
    rw [List.forall_mem_cons] at hw
    simp [pieces, hw.1, ih hw.2]

theorem foldr_extend_of_not_word {w : List Char} (hw : w ≠ []) {ps : List Piece}
    (hps : ∀ p ∈ ps.head?, p.isWord = false) : w.foldr Piece.extend ps = .word w :: ps := by
  induction w with
  | nil => contradiction
  | cons c w ih =>
    cases w with
    | nil =>
      match ps, hps with
      | [], _ => rfl
      | .mark _ :: _, _ => rfl
      | .word _ :: _, hps => simp [Piece.isWord] at hps
    | cons c' w => simp [ih (List.cons_ne_nil c' w), Piece.extend]

theorem pieces_word_then {w rest : List Char} (hw : ∀ c ∈ w, isWordChar c = true)
    (hrest : ∀ p ∈ (pieces rest).head?, p.isWord = false) :
    pieces (w ++ rest) = (if w = [] then [] else [.word w]) ++ pieces rest := by
  rw [pieces_word_append hw]
  by_cases empty : w = []
  · simp [empty]
  · simp [empty, foldr_extend_of_not_word empty hrest]

section Tokenization

variable {ps : List Piece} {code : List Char}

theorem Tokenization.tail {p : Piece} (h : Tokenization (p :: ps) code) :
    Tokenization ps (ps.map Piece.text).flatten :=
  ⟨rfl, fun w hw => h.words w (List.mem_cons_of_mem _ hw),
    fun c hc => h.marks c (List.mem_cons_of_mem _ hc), h.apart.tail⟩

theorem Tokenization.head_after_word {w : List Char} (h : Tokenization (.word w :: ps) code) :
    ∀ p ∈ ps.head?, p.isWord = false := by
  have apart := h.apart
  cases ps with
  | nil => simp
  | cons q ps =>
    rw [List.isChain_cons_cons] at apart
    simpa [Piece.isWord] using apart.1

theorem Tokenization.mark {c : Char} (h : Tokenization ps code) (hc : isWordChar c = false) :
    Tokenization (.mark c :: ps) (c :: code) := by
  refine ⟨by simp [Piece.text, h.spells], ?_, ?_, ?_⟩
  · intro w hw
    exact h.words w (by simpa using hw)
  · intro d hd
    rcases List.mem_cons.mp hd with same | other
    · cases same
      exact hc
    · exact h.marks d other
  · cases ps with
    | nil => simp
    | cons q ps => exact List.isChain_cons_cons.mpr ⟨by simp [Piece.isWord], h.apart⟩

theorem Tokenization.extend {c : Char} (h : Tokenization ps code) (hc : isWordChar c = true) :
    Tokenization (Piece.extend c ps) (c :: code) := by
  match ps, h with
  | [], h =>
    refine ⟨by simp [Piece.extend, Piece.text, ← h.spells], ?_, by simp [Piece.extend], by
      simp [Piece.extend]⟩
    intro w hw
    simp only [Piece.extend, List.mem_singleton, Piece.word.injEq] at hw
    subst hw
    simpa using hc
  | .mark d :: ps, h =>
    have marked : Tokenization (.mark d :: ps) code := h
    refine ⟨by simp [Piece.extend, Piece.text, ← h.spells], ?_, ?_, ?_⟩
    · intro w hw
      simp only [Piece.extend, List.mem_cons, Piece.word.injEq, reduceCtorEq, false_or] at hw
      rcases hw with rfl | hw
      · simpa using hc
      · exact h.words w (List.mem_cons_of_mem _ hw)
    · intro e he
      simp only [Piece.extend, List.mem_cons, reduceCtorEq, false_or] at he
      exact marked.marks e (List.mem_cons.mpr he)
    · exact List.isChain_cons_cons.mpr ⟨by simp [Piece.isWord], h.apart⟩
  | .word u :: ps, h =>
    refine ⟨by simp [Piece.extend, Piece.text, ← h.spells], ?_, ?_, ?_⟩
    · intro w hw
      simp only [Piece.extend, List.mem_cons, Piece.word.injEq] at hw
      rcases hw with rfl | hw
      · have inner := (h.words u List.mem_cons_self).2
        exact ⟨List.cons_ne_nil _ _, List.forall_mem_cons.mpr ⟨hc, inner⟩⟩
      · exact h.words w (List.mem_cons_of_mem _ hw)
    · intro e he
      simp only [Piece.extend, List.mem_cons, reduceCtorEq, false_or] at he
      exact h.marks e (List.mem_cons_of_mem _ he)
    · have apart := h.apart
      cases ps with
      | nil => simp [Piece.extend]
      | cons q ps =>
        rw [List.isChain_cons_cons] at apart
        exact List.isChain_cons_cons.mpr ⟨by simpa [Piece.isWord] using apart.1, apart.2⟩

theorem tokenization_pieces (code : List Char) : Tokenization (pieces code) code := by
  induction code with
  | nil => exact ⟨rfl, by simp [pieces], by simp [pieces], by simp [pieces]⟩
  | cons c rest ih =>
    cases hc : isWordChar c with
    | true =>
      rw [pieces, if_pos hc]
      exact ih.extend hc
    | false =>
      rw [pieces_mark hc]
      exact ih.mark hc

theorem Tokenization.eq_pieces (h : Tokenization ps code) : ps = pieces code := by
  induction ps generalizing code with
  | nil => rw [← h.spells]; rfl
  | cons p ps ih =>
    have rest := ih h.tail
    rw [← h.spells]
    cases p with
    | mark c =>
      simp only [List.map_cons, List.flatten_cons, Piece.text, List.singleton_append,
        pieces_mark (h.marks c List.mem_cons_self), ← rest]
    | word w =>
      have word := h.words w List.mem_cons_self
      simp only [List.map_cons, List.flatten_cons, Piece.text]
      rw [pieces_word_append word.2, ← rest, foldr_extend_of_not_word word.1 h.head_after_word]

theorem pieces_eq_iff : pieces code = ps ↔ Tokenization ps code :=
  ⟨fun h => h ▸ tokenization_pieces code, fun h => h.eq_pieces.symm⟩

end Tokenization

end StrategyDeploy.Expression
