import Parsing.Proofs.Lexer.Tokens
import Parsing.Proofs.Matching.Start
import Parsing.Proofs.Reduction.ShapeSafety

namespace Parsing

variable {K V : Type} [TokenKind K]

namespace Parser

inductive Ends (p : Parser K V) (source : String) : ParseResult K V → Prop
  | lexical {e : LexerError} : p.lexer.tokenize source = .error e →
    Ends p source (.failure (.lexical e) 0)
  | syntactic {ts : List (Token K)} {e : Unexpected K} {stop : Nat} :
    p.lexer.tokenize source = .ok ts → p.grammar.parse ts p.start = .ok (.failed [e] stop) →
    Ends p source (.failure (.syntactic e) ts.length)
  | reduction {ts : List (Token K)} {tree : Tree K} {stop : Nat} {errors : List (Unexpected K)}
      {e : ReduceError} :
    p.lexer.tokenize source = .ok ts →
    p.grammar.parse ts p.start = .ok (.matched tree stop true errors) →
    p.grammar.reduce tree = .error e → Ends p source (.failure (.reduction e) ts.length)
  | value {ts : List (Token K)} {tree : Tree K} {stop : Nat} {errors : List (Unexpected K)}
      {v : V} :
    p.lexer.tokenize source = .ok ts →
    p.grammar.parse ts p.start = .ok (.matched tree stop true errors) →
    p.grammar.reduce tree = .ok v → Ends p source (.success v ts.length)

variable {p : Parser K V} {source : String} {r : ParseResult K V}

theorem parse_of_tokenize_eq_error {e : LexerError} (h : p.lexer.tokenize source = .error e) :
    p.parse source = .ok (.failure (.lexical e) 0) := by
  rw [parse, parseFrom, h]
  rfl

theorem parse_of_tokenize_eq_ok {ts : List (Token K)} (h : p.lexer.tokenize source = .ok ts) :
    p.parse source = p.grammar.parse ts p.start >>= conclude p.grammar ts := by
  rw [parse, parseFrom, h]

theorem ends_of_conclude {ts : List (Token K)} {o : Outcome K}
    (hts : p.lexer.tokenize source = .ok ts) (ho : p.grammar.parse ts p.start = .ok o) :
    ∃ r, conclude p.grammar ts o = .ok r ∧ p.Ends source r := by
  obtain ⟨index, hwins⟩ | ⟨⟨e, stop, rfl⟩, -⟩ := Grammar.parse_eq_ok ho
  · obtain ⟨tree, stop, errors, rfl, -⟩ := hwins.exists_eq
    cases hreduce : p.grammar.reduce tree with
    | ok v => exact ⟨_, by simp only [conclude, hreduce]; rfl, .value hts ho hreduce⟩
    | error e => exact ⟨_, by simp only [conclude, hreduce]; rfl, .reduction hts ho hreduce⟩
  · exact ⟨_, rfl, .syntactic hts ho⟩

theorem ends_of_parse (h : p.parse source = .ok r) : p.Ends source r := by
  cases hts : p.lexer.tokenize source with
  | error e =>
    rw [parse_of_tokenize_eq_error hts] at h
    cases h
    exact .lexical hts
  | ok ts =>
    rw [parse_of_tokenize_eq_ok hts] at h
    obtain ⟨o, ho, h⟩ := Except.bind_eq_ok.1 h
    obtain ⟨r', hr', hends⟩ := ends_of_conclude hts ho
    rw [hr'] at h
    cases h
    exact hends

theorem exists_parse_eq_ok :
    (∃ r, p.parse source = .ok r) ↔
      ∀ ts, p.lexer.tokenize source = .ok ts → ∃ o, p.grammar.parse ts p.start = .ok o := by
  cases hts : p.lexer.tokenize source with
  | error e => simp [parse_of_tokenize_eq_error hts]
  | ok ts =>
    simp only [parse_of_tokenize_eq_ok hts, Except.ok.injEq, forall_eq', Except.bind_eq_ok]
    constructor
    · exact fun ⟨_, o, ho, _⟩ => ⟨o, ho⟩
    · rintro ⟨o, ho⟩
      obtain ⟨r, hr, -⟩ := ends_of_conclude hts ho
      exact ⟨r, o, ho, hr⟩

namespace Ends

variable (h : p.Ends source r)

include h

theorem value_or_error :
    (∃ v, r.value? = some v ∧ r.errors = []) ∨ (r.value? = none ∧ ∃ e, r.errors = [e]) := by
  cases h with
  | lexical | syntactic | reduction => exact .inr ⟨rfl, _, rfl⟩
  | value => exact .inl ⟨_, rfl, rfl⟩

theorem errors_eq_lexical {e : LexerError} :
    r.errors = [.lexical e] ↔ p.lexer.tokenize source = .error e := by
  cases h with
  | lexical hts => simp [ParseResult.failure, hts]
  | syntactic hts | reduction hts | value hts =>
    simp [ParseResult.failure, ParseResult.success, hts]

theorem errors_eq_syntactic {e : Unexpected K} :
    r.errors = [.syntactic e] ↔ ∃ ts stop, p.lexer.tokenize source = .ok ts ∧
      p.grammar.parse ts p.start = .ok (.failed [e] stop) := by
  cases h with
  | lexical hts => simp [ParseResult.failure, hts]
  | syntactic hts ho | reduction hts ho | value hts ho =>
    simp [ParseResult.failure, ParseResult.success, hts, ho]

theorem errors_eq_reduction {e : ReduceError} :
    r.errors = [.reduction e] ↔ ∃ ts tree stop errors, p.lexer.tokenize source = .ok ts ∧
      p.grammar.parse ts p.start = .ok (.matched tree stop true errors) ∧
      p.grammar.reduce tree = .error e := by
  cases h with
  | lexical hts => simp [ParseResult.failure, hts]
  | syntactic hts ho => simp [ParseResult.failure, hts, ho]
  | reduction hts ho hreduce | value hts ho hreduce =>
    simp [ParseResult.failure, ParseResult.success, hts, ho, hreduce]

theorem value?_eq_some {v : V} :
    r.value? = some v ↔ ∃ ts tree stop errors, p.lexer.tokenize source = .ok ts ∧
      p.grammar.parse ts p.start = .ok (.matched tree stop true errors) ∧
      p.grammar.reduce tree = .ok v := by
  cases h with
  | lexical hts => simp [ParseResult.failure, hts]
  | syntactic hts ho => simp [ParseResult.failure, hts, ho]
  | reduction hts ho hreduce | value hts ho hreduce =>
    simp [ParseResult.failure, ParseResult.success, hts, ho, hreduce]

end Ends

end Parser

/-- Matching comes to the first attempt of a rule of the start that ends the input, which leaves one
token unread at most, or to one error if no attempt does. Where no line comment opens with a line
terminator, a parser returns whenever matching does; a result is a value or one error, which is that
of the lexer, the one of matching, or that of reduction. -/
theorem parse_gives_value_or_one_error (g : Grammar K V) (p : Parser K V) (source : String) :
    (∀ ts start o, g.parse ts start = .ok o →
      (∃ index tree stop errors, o = .matched tree stop true errors ∧
        g.Wins (Grammar.withEndMarker ts) start index o ∧
        (stop + 1 = (Grammar.withEndMarker ts).length ∨
          stop + 2 = (Grammar.withEndMarker ts).length)) ∨
      (∃ e stop, o = .failed [e] stop) ∧ ∀ index q,
        g.Tries (Grammar.withEndMarker ts) start index q → q.isEnded = false) ∧
    ((∀ d ∈ p.lexer.comments, ∀ opener ∈ d.singleLine, ∀ c ∈ opener.toList.head?,
        isLineTerminator c = false) →
      ((∃ r, p.parse source = .ok r) ↔
        ∀ ts, p.lexer.tokenize source = .ok ts → ∃ o, p.grammar.parse ts p.start = .ok o)) ∧
    ∀ r, p.parse source = .ok r →
      ((∃ v, r.value? = some v ∧ r.errors = []) ∨ (r.value? = none ∧ ∃ e, r.errors = [e])) ∧
      (∀ e, r.errors = [.lexical e] ↔ p.lexer.tokenize source = .error e) ∧
      (∀ e, r.errors = [.syntactic e] ↔ ∃ ts stop, p.lexer.tokenize source = .ok ts ∧
        p.grammar.parse ts p.start = .ok (.failed [e] stop)) ∧
      (∀ e, r.errors = [.reduction e] ↔ ∃ ts tree stop errors, p.lexer.tokenize source = .ok ts ∧
        p.grammar.parse ts p.start = .ok (.matched tree stop true errors) ∧
        p.grammar.reduce tree = .error e) ∧
      ∀ v, r.value? = some v ↔ ∃ ts tree stop errors, p.lexer.tokenize source = .ok ts ∧
        p.grammar.parse ts p.start = .ok (.matched tree stop true errors) ∧
        p.grammar.reduce tree = .ok v := by
  refine ⟨fun ts start o ho => ?_, fun _ => Parser.exists_parse_eq_ok, fun r hr => ?_⟩
  · obtain ⟨index, hwins⟩ | hfailed := Grammar.parse_eq_ok ho
    · obtain ⟨tree, stop, errors, rfl, -⟩ := hwins.exists_eq
      exact .inl ⟨index, tree, stop, errors, rfl, hwins, (Grammar.stop_of_parse ho).2⟩
    · exact .inr hfailed
  · have hends := Parser.ends_of_parse hr
    exact ⟨hends.value_or_error, fun _ => hends.errors_eq_lexical,
      fun _ => hends.errors_eq_syntactic, fun _ => hends.errors_eq_reduction,
      fun _ => hends.value?_eq_some⟩

namespace Totals

open Json (TokenType)

def parser : Parser TokenType Nat := ⟨Sheet.lexer, grammar, none⟩

theorem parse_unread_comma : parser.parse "7:," = .ok (.success 2 4) := by rfl

theorem unread_comma_gives_value :
    Grammar.build "total" productions = .ok grammar ∧
      Lexer.build Sheet.vocabulary (some .cStyle) = .ok Sheet.lexer ∧
      Parser.build Sheet.lexer grammar none = .ok parser ∧
      (∀ d ∈ parser.lexer.comments, ∀ opener ∈ d.singleLine, ∀ c ∈ opener.toList.head?,
        isLineTerminator c = false) ∧
      (∀ ts, Sheet.lexer.tokenize "7:," = .ok ts → ∃ o, grammar.parse ts "total" = .ok o) ∧
      parser.parse "7:," = .ok (.success 2 4) ∧
      ∃ ts tree stop errors index, Sheet.lexer.tokenize "7:," = .ok ts ∧
        grammar.parse ts "total" = .ok (.matched tree stop true errors) ∧
        grammar.Wins (Grammar.withEndMarker ts) "total" index (.matched tree stop true errors) ∧
        grammar.reduce tree = .ok 2 := by
  obtain ⟨hmatching, hreturns, hparsing⟩ := parse_gives_value_or_one_error grammar parser "7:,"
  obtain ⟨-, -, -, -, hvalue⟩ := hparsing _ parse_unread_comma
  obtain ⟨ts, tree, stop, errors, hts, ho, hreduce⟩ := (hvalue 2).1 rfl
  refine ⟨build_productions, Sheet.build_vocabulary, rfl, Sheet.line_comments,
    (hreturns Sheet.line_comments).1 ⟨_, parse_unread_comma⟩, parse_unread_comma, ts, tree, stop,
    errors, ?_⟩
  obtain ⟨index, _, _, _, heq, hwins, -⟩ | ⟨⟨e, _, heq⟩, -⟩ := hmatching ts "total" _ ho
  · cases heq
    exact ⟨index, hts, ho, hwins, hreduce⟩
  · cases heq

end Totals

end Parsing
