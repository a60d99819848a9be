import SourceReport.Grammar.Failure
import SourceReport.Proofs.Excerpt.Between
import SourceReport.Proofs.Results

namespace SourceReport

theorem Excerpt.content_between {buffer : List Char} {a b : Nat} (hab : a ≤ b)
    (hb : b ≤ buffer.length) :
    (between (.atOffset buffer a) (.atOffset buffer b)).text.content = (buffer.take b).drop a := by
  obtain ⟨before, passed, rest, rfl, rfl, rfl⟩ := Text.exists_split hab hb
  have hbetween := between_atOffset_append before passed rest
  rw [List.append_assoc] at hbetween
  rw [hbetween]
  rfl

namespace Grammar

variable {α β : Type}

namespace Parser

theorem map_value_located (p : Parser α) : p.located.map (·.value) = p := by
  funext source index
  have hresult : (p.located source index).result.map (fun (l, stop) => (l.value, stop)) =
      (p source index).result := by
    rw [located_result]
    cases (p source index).result with
    | none => rfl
    | some read => rfl
  unfold map
  dsimp only
  rw [located_reach, hresult]

theorem parse_map (f : α → β) (p : Parser α) (source : List Char) :
    (p.map f).parse source = (p.parse source).map f := by
  unfold parse pair map
  dsimp only
  cases (p source 0).result with
  | none => rfl
  | some read =>
    dsimp only [Option.map_some]
    cases ((eof source read.2).after (p source 0).reach).result with
    | none => rfl
    | some last => rfl

theorem map_value_parse_located (p : Parser α) (source : List Char) :
    (p.located.parse source).map (·.value) = p.parse source := by
  rw [← parse_map, map_value_located]

theorem parse_located_eq_error_iff {p : Parser α} {source : List Char} {failure : Failure} :
    p.located.parse source = .error failure ↔ p.parse source = .error failure := by
  rw [← map_value_parse_located p source, map_eq_error_iff]

end Parser

theorem Located.content_excerpt {source : List Char} {index stop : Nat} (hle : index ≤ stop)
    (hstop : stop ≤ source.length) (value : α) (sourceName : Option (List Char)) :
    (Located.excerpt { value, start := .atOffset source index, stop := .atOffset source stop }
      sourceName).text.content = (source.take stop).drop index := by
  cases sourceName with
  | none => exact Excerpt.content_between hle hstop
  | some name => exact Excerpt.content_between hle hstop

/-- Whether a parser that is used at an index does not read past the end of the source. -/
def Parser.EndsWithin (p : Parser α) (source : List Char) (index : Nat) : Prop :=
  ∀ value stop, (p source index).result = some (value, stop) → stop ≤ source.length

/-- A parser that keeps positions replies as the parser itself does: it succeeds at the same places
and gets as far, with the same expectations there. Its values are those of the parser with the
positions of both ends, and their excerpts hold exactly what was read. So reading a whole source
fails exactly if it does with the parser itself, with an equal diagnostic. -/
theorem located_transparent (p : Parser α) (source : List Char) :
    (∀ index, index ≤ source.length → p.EndsWithin source index →
      let reply := p source index
      let located := p.located source index
      located.isSuccess = reply.isSuccess ∧
      located.result.map Prod.snd = reply.result.map Prod.snd ∧
      located.reach.furthest = reply.reach.furthest ∧
      located.reach.expected = reply.reach.expected ∧
      (reply.result = none → located = { result := none, reach := reply.reach }) ∧
      ∀ value stop, reply.result = some (value, stop) →
        ∃ l, located.result = some (l, stop) ∧ l.value = value ∧
          Position.at? source index = .ok l.start ∧ Position.at? source stop = .ok l.stop ∧
          (index ≤ stop → ∀ sourceName,
            (l.excerpt sourceName).text.content = (source.take stop).drop index)) ∧
    (p.EndsWithin source 0 →
      ((∃ failure, p.located.parse source = .error failure) ↔
        ∃ failure, p.parse source = .error failure) ∧
      ∀ failure failure', p.located.parse source = .error failure →
        p.parse source = .error failure' →
        ∀ {κ : Type} (sourceName : Option (List Char)) (kind : κ),
          failure.diagnostic sourceName kind = failure'.diagnostic sourceName kind) := by
  refine ⟨?_, fun _ => ⟨?_, ?_⟩⟩
  · intro index hindex hends reply located
    have hreach : located.reach = reply.reach := p.located_reach source index
    have hresult : located.result = _ := p.located_result source index
    refine ⟨p.located_isSuccess source index, ?_, by rw [hreach], by rw [hreach], ?_, ?_⟩
    · rw [hresult, Option.map_map]
      rfl
    · intro hnone
      have hfails : located.result = none := by
        rw [hresult, hnone, Option.map_none]
      rw [← hfails, ← hreach]
    · intro value stop hread
      have hstop := hends value stop hread
      refine ⟨_, by rw [hresult, hread, Option.map_some], rfl, Position.at?_natCast hindex,
        Position.at?_natCast hstop, ?_⟩
      exact fun hle => Located.content_excerpt hle hstop value
  · exact exists_congr fun _ => Parser.parse_located_eq_error_iff
  · intro failure failure' hlocated hparse κ sourceName kind
    have hsame := Parser.parse_located_eq_error_iff.mp hlocated
    rw [Except.error.inj (hsame.symm.trans hparse)]

def untilX : Parser (List Char) := (Parser.char "no x".toList (· != 'x')).times 0 none

/-- From the middle of a source, over a line feed. The whole source is not read, as it goes on. -/
theorem located_transparent_untilX :
    1 ≤ "a\nbxc".toList.length ∧ untilX.EndsWithin "a\nbxc".toList 1 ∧
    untilX.EndsWithin "a\nbxc".toList 0 ∧
    (∃ l, (untilX.located "a\nbxc".toList 1).result = some (l, 3) ∧ l.value = "\nb".toList ∧
      Position.at? "a\nbxc".toList 1 = .ok l.start ∧ Position.at? "a\nbxc".toList 3 = .ok l.stop ∧
      (l.excerpt none).text.content = "\nb".toList) ∧
    (untilX.located "a\nbxc".toList 1).reach.furthest = some 3 ∧
    (untilX.located "a\nbxc".toList 1).reach.expected = ["no x".toList] ∧
    ∃ failure, untilX.located.parse "a\nbxc".toList = .error failure := by
  have hread (index : Nat) (value : List Char)
      (h : (untilX "a\nbxc".toList index).result = some (value, 3)) :
      untilX.EndsWithin "a\nbxc".toList index := by
    intro other stop hother
    obtain ⟨-, rfl⟩ := Prod.mk.inj (Option.some.inj (hother.symm.trans h))
    decide
  have hwithin := hread 1 "\nb".toList (by decide)
  have hwhole := hread 0 "a\nb".toList (by decide)
  obtain ⟨hpart, hparse⟩ := located_transparent untilX "a\nbxc".toList
  obtain ⟨-, -, hfurthest, hexpected, -, hvalue⟩ := hpart 1 (by decide) hwithin
  obtain ⟨l, hl, hsame, hstart, hstop, htext⟩ := hvalue "\nb".toList 3 (by decide)
  exact ⟨by decide, hwithin, hwhole, ⟨l, hl, hsame, hstart, hstop, htext (by decide) none⟩,
    hfurthest, hexpected, (hparse hwhole).1.mpr ⟨_, rfl⟩⟩

end Grammar

end SourceReport
