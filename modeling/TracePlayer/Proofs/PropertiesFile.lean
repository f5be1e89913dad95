import TracePlayer.Proofs.PrintedJson
import TracePlayer.Settings.Properties

/-!
# The text of a properties file

A properties file may be written as an object that holds every key, with null for what is not set. `parse_written` says that it
sets just that: each key is read into the property of its name.
-/

namespace TracePlayer.Properties

/-- The numbers of the properties are such as may be set. -/
structure InRange (p : Properties) : Prop where
  tickMs : ∀ n ∈ p.tickMs, n < wordBound
  debugLevel : ∀ n ∈ p.debugLevel, n < 256

/-- The text of a properties file. -/
def written (p : Properties) : List Char :=
  let number := fun n : Nat => (toString n).toList
  '\x7b' :: (Json.quoted "interpreter" ++ ':' :: (Json.writeOptional Json.quoted p.interpreter ++
    ',' :: (Json.quoted "env_file" ++ ':' :: (Json.writeOptional Json.quoted p.envFile ++
    ',' :: (Json.quoted "tick_ms" ++ ':' :: (Json.writeOptional number p.tickMs ++
    ',' :: (Json.quoted "debug_level" ++ ':' :: (Json.writeOptional number p.debugLevel ++ ['\x7d']))))))))

theorem readOptional_text (v : Option String) (rest : List Char) :
    Json.readOptional Json.readText (Json.writeOptional Json.quoted v ++ rest) = .ok (v, rest) := by
  refine Json.readOptional_writeOptional (fun s _ => ⟨Json.starts_quoted s, ?_⟩) fun s _ => Json.readText_quoted s rest
  simp [Json.quoted]

theorem readOptional_number {limit : Nat} {v : Option Nat} (h : ∀ n ∈ v, n < limit) (hlimit : limit ≤ wordBound)
    {rest : List Char} (hrest : Json.EndsNumber rest) :
    Json.readOptional (Json.readBelow limit) (Json.writeOptional (fun n : Nat => (toString n).toList) v ++ rest) =
      .ok (v, rest) := by
  refine Json.readOptional_writeOptional (fun n _ => ⟨Json.starts_toString n, fun hhead => ?_⟩) fun n hn =>
    Json.readBelow_toString (h n hn) hlimit ((Json.starts_toString n).append rest).skipGap_eq hrest
  obtain ⟨c, tail, hn, hc⟩ := Json.toString_eq_cons n
  have hchars : (toString n).toList = c :: tail := hn
  rw [hchars] at hhead
  obtain rfl := Option.some.inj hhead
  revert hc
  decide

/-- Properties that are written as a file are read from it. -/
theorem parse_written {p : Properties} (h : p.InRange) : parse (String.ofList p.written) = .ok p := by
  have hcomma : ∀ rest, Json.EndsNumber (',' :: rest) := Json.endsNumber_cons (by decide)
  have hclose : Json.EndsNumber ['\x7d'] := Json.endsNumber_cons (by decide) []
  have hentries : ∀ total rounds, Json.readByKey slots total (rounds + 5) true ⟨none, none, none, none⟩ p.written.tail =
      .ok (⟨some p.interpreter, some p.envFile, some p.tickMs, some p.debugLevel⟩, []) := by
    intro total rounds
    have hinterpreter := fun rest => readOptional_text p.interpreter rest
    have henvFile := fun rest => readOptional_text p.envFile rest
    have htickMs := fun rest => readOptional_number h.tickMs (Nat.le_refl wordBound) (hcomma rest)
    have hdebugLevel := readOptional_number h.debugLevel (by decide) hclose
    rw [written, List.tail_cons,
      Json.readByKey_first rfl rfl (congrArg (Except.map _) (hinterpreter _)),
      Json.readByKey_comma rfl rfl (congrArg (Except.map _) (henvFile _)),
      Json.readByKey_comma rfl rfl (congrArg (Except.map _) (htickMs _)),
      Json.readByKey_comma rfl rfl (congrArg (Except.map _) hdebugLevel), Json.readByKey_close]
  have hlength : ∃ rounds, p.written.length = rounds + 4 := by
    refine ⟨p.written.length - 4, (Nat.sub_add_cancel ?_).symm⟩
    simp only [written, List.length_cons, List.length_append]
    omega
  obtain ⟨rounds, hrounds⟩ := hlength
  have hrecord : Json.readRecord (rounds + 5) Json.nestingLimit slots ⟨none, none, none, none⟩ (fun d => some d.complete)
      p.written = .ok (p, []) := by
    have hgap : Json.skipGap p.written = '\x7b' :: p.written.tail := rfl
    rw [Json.readRecord, hgap]
    simp only [hentries]
    rfl
  rw [parse, String.toList_ofList, Json.readAll, hrounds, hrecord]
  rfl

end TracePlayer.Properties
