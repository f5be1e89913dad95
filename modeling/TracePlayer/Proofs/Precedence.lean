import TracePlayer.Proofs.Fields
import TracePlayer.Proofs.GivenOptions
import TracePlayer.Proofs.PropertiesFile
import TracePlayer.Settings.Resolve

/-!
# Where the settings come from

Each setting is what the words of the command line give it, else what the properties file gives it, else its default (`Chosen`).
The file may be missing under its default name. That holds also when the words name it so, which they should not be able to do:
`named_default_may_be_missing` gives such words. The main statement is `settings_by_precedence`, for every command line that is
accepted and whatever is found at paths.
-/

namespace TracePlayer

namespace Text

variable {mark c : Char} {s piece : List Char} {rest : List (List Char)}

theorem splitAt_cons_mark (mark : Char) (s : List Char) : splitAt mark (mark :: s) = [] :: splitAt mark s := by
  simp [splitAt]

theorem splitAt_cons_of_ne (h : c ≠ mark) (hs : splitAt mark s = piece :: rest) :
    splitAt mark (c :: s) = (c :: piece) :: rest := by
  simp only [splitAt, List.cons.injEq] at hs
  simp [splitAt, h, hs]

theorem exists_splitAt (mark : Char) (s : List Char) : ∃ piece rest, splitAt mark s = piece :: rest := ⟨_, _, rfl⟩

/-- The pieces of a text joined by the mark are the text. -/
theorem join_splitAt (mark : Char) (s : List Char) : join mark (splitAt mark s) = s := by
  induction s with
  | nil => rfl
  | cons c s ih =>
    obtain ⟨piece, rest, hs⟩ := exists_splitAt mark s
    by_cases hc : c = mark
    · rw [hc, splitAt_cons_mark, hs, join_cons_cons, ← hs, ih, List.nil_append]
    · rw [splitAt_cons_of_ne hc hs]
      rw [hs] at ih
      rw [← ih]
      cases rest <;> rfl

/-- Pieces without the mark are those of the text that they are joined to. -/
theorem splitAt_join {pieces : List (List Char)} (hne : pieces ≠ []) (h : ∀ s ∈ pieces, mark ∉ s) :
    splitAt mark (join mark pieces) = pieces := by
  have hpiece : ∀ {piece s rest}, mark ∉ piece → splitAt mark s = [] :: rest →
      splitAt mark (piece ++ s) = piece :: rest := by
    intro piece s rest hpiece hs
    induction piece with
    | nil => exact hs
    | cons c piece ih =>
      rw [List.mem_cons, not_or] at hpiece
      exact splitAt_cons_of_ne (Ne.symm hpiece.1) (ih hpiece.2)
  induction pieces with
  | nil => exact absurd rfl hne
  | cons piece rest ih =>
    obtain ⟨hmark, hrest⟩ := List.forall_mem_cons.1 h
    cases rest with
    | nil =>
      have hsplit : splitAt mark (piece ++ []) = [piece] := hpiece hmark rfl
      rwa [List.append_nil] at hsplit
    | cons piece' rest =>
      rw [join_cons_cons]
      refine hpiece hmark ?_
      rw [splitAt_cons_mark, ih (List.cons_ne_nil _ _) hrest]

/-- Joining by a mark puts one in front of every piece but the first. -/
theorem join_cons (mark : Char) (piece : List Char) (rest : List (List Char)) :
    join mark (piece :: rest) = piece ++ rest.flatMap (mark :: ·) := by
  induction rest generalizing piece with
  | nil => simp [join]
  | cons piece' rest ih => rw [join_cons_cons, ih, List.flatMap_cons, List.cons_append]

end Text

namespace CommandLine

/-- A path is the default name of the properties file. Slashes at its end do not count, with or without a dot behind them. -/
def SpellsDefault (path : String) : Prop :=
  ∃ ends : List String, (∀ e ∈ ends, e = "/" ∨ e = "/.") ∧ path = Settings.defaultProperties ++ String.join ends

theorem isDefaultProperties_iff {path : String} : isDefaultProperties path = true ↔ SpellsDefault path := by
  constructor
  · intro h
    obtain ⟨name, rest, hsplit⟩ := Text.exists_splitAt '/' path.toList
    have hjoin := Text.join_splitAt '/' path.toList
    simp only [isDefaultProperties, hsplit, Bool.and_eq_true, beq_iff_eq, List.all_eq_true, Bool.or_eq_true] at h
    rw [hsplit, Text.join_cons, h.1] at hjoin
    refine ⟨rest.map fun n => String.ofList ('/' :: n), fun e he => ?_, String.toList_inj.1 ?_⟩
    · obtain ⟨n, hn, rfl⟩ := List.mem_map.1 he
      rcases h.2 n hn with rfl | rfl
      · exact .inl rfl
      · exact .inr rfl
    · rw [String.toList_append, String.toList_join, List.flatMap_map, ← hjoin]
      simp
  · rintro ⟨ends, hends, rfl⟩
    have hchars : (Settings.defaultProperties ++ String.join ends).toList =
        Text.join '/' (Settings.defaultProperties.toList :: ends.map fun e => e.toList.tail) := by
      rw [String.toList_append, String.toList_join, Text.join_cons, List.flatMap_map, List.flatMap_def, List.flatMap_def]
      refine congrArg (fun pieces => _ ++ List.flatten pieces) (List.map_congr_left fun e he => ?_)
      rcases hends e he with rfl | rfl <;> rfl
    have htails : ∀ n ∈ ends.map fun e => e.toList.tail, n = [] ∨ n = ['.'] := by
      intro n hn
      obtain ⟨e, he, rfl⟩ := List.mem_map.1 hn
      rcases hends e he with rfl | rfl
      · exact .inl rfl
      · exact .inr rfl
    have hmark : ∀ n ∈ Settings.defaultProperties.toList :: ends.map fun e => e.toList.tail, '/' ∉ n := by
      refine List.forall_mem_cons.2 ⟨by decide, fun n hn => ?_⟩
      rcases htails n hn with rfl | rfl <;> decide
    simp only [isDefaultProperties, hchars, Text.splitAt_join (List.cons_ne_nil _ _) hmark, Bool.and_eq_true, beq_self_eq_true,
      true_and, List.all_eq_true, Bool.or_eq_true, beq_iff_eq]
    exact htails

/-- The path of the properties file: the one that the words give, or the default name. -/
def NamesProperties (words : List String) (path : String) : Prop :=
  Gives words .properties path ∨ (∀ p, ¬Gives words .properties p) ∧ path = Settings.defaultProperties

/-- A setting is what the words give its option, as it is read, or else what there is besides. -/
def Takes {α : Type} (words : List String) (o : Setting) (read : String → Option α) (besides : Option α) (setting : α) : Prop :=
  (∀ value, Gives words o value → read value = some setting) ∧ ((∀ value, ¬Gives words o value) → besides = some setting)

/-- The settings are those of the words, else those of the file, else the defaults. -/
structure Chosen (words : List String) (file : Properties) (settings : Settings) : Prop where
  interpreter : Takes words .interpreter some file.interpreter settings.interpreter
  envFile : Takes words .envFile some (some (file.envFile.getD Settings.defaultEnvFile)) settings.envFile
  tickMs : Takes words .tickMs (fun value => Text.readNatural wordBound value.toList)
    (some (file.tickMs.getD Settings.defaultTickMs)) settings.tickMs
  debugLevel : Takes words .debugLevel debugLevel? (some (file.debugLevel.getD Settings.defaultDebugLevel)) settings.debugLevel

/-- What is answered, given the properties of the file. No other fault is left than that neither names an interpreter. -/
def Answers (words : List String) (file : Properties) : Except SettingsFault Settings → Prop
  | .ok settings => Chosen words file settings
  | .error fault => fault = .noInterpreter ∧ (∀ value, ¬Gives words .interpreter value) ∧ file.interpreter = none

namespace PrecedenceAux

variable {words : List String} {line : CommandLine} {file : Properties}

theorem takes_of_or {α : Type} {o : Setting} {read : String → Option α} {text : Option String} {given besides : Option α}
    (hgives : ∀ value, Gives words o value ↔ text = some value) (hread : given.map some = text.map read)
    {setting : α} (h : given.or besides = some setting) : Takes words o read besides setting := by
  refine ⟨fun value hvalue => ?_, fun hnone => ?_⟩
  · rw [(hgives value).1 hvalue] at hread
    cases given with
    | none => cases hread
    | some n =>
      obtain rfl := Option.some.inj h
      exact (Option.some.inj hread).symm
  · have htext : text = none := Option.eq_none_iff_forall_ne_some.2 fun value heq => hnone value ((hgives value).2 heq)
    rw [htext, Option.map_none, Option.map_eq_none_iff] at hread
    rwa [hread, Option.none_or] at h

theorem answers_ofSources {texts : Setting → Option String} (hholds : line.draft.Holds texts)
    (hgives : ∀ o value, Gives words o value ↔ texts o = some value) (file : Properties) :
    Answers words file (Settings.ofSources line file) := by
  have hinterpreter : line.interpreter = texts .interpreter := hholds.interpreter
  have henvFile : line.envFile = texts .envFile := hholds.envFile
  have hdefault : ∀ {α : Type} (given file : Option α) (default : α),
      given.or (some (file.getD default)) = some ((given.or file).getD default) := by
    intro α given file default
    cases given <;> rfl
  unfold Settings.ofSources
  split
  · rename_i hnone
    rw [Option.or_eq_none_iff] at hnone
    refine ⟨rfl, fun value hvalue => ?_, hnone.2⟩
    rw [hgives, ← hinterpreter, hnone.1] at hvalue
    cases hvalue
  · rename_i interpreter hsome
    exact {
      interpreter := takes_of_or (hgives _) (congrArg (Option.map some) hinterpreter) hsome
      envFile := takes_of_or (hgives _) (congrArg (Option.map some) henvFile) (hdefault _ _ _)
      tickMs := takes_of_or (hgives _) hholds.tickMs (hdefault _ _ _)
      debugLevel := takes_of_or (hgives _) hholds.debugLevel (hdefault _ _ _) }

theorem namesProperties_iff {texts : Setting → Option String} (hholds : line.draft.Holds texts)
    (hgives : ∀ o value, Gives words o value ↔ texts o = some value) {path : String} :
    NamesProperties words path ↔ path = line.propertiesPath := by
  have hproperties : line.properties = texts .properties := hholds.properties
  simp only [NamesProperties, hgives, ← hproperties, propertiesPath]
  cases line.properties <;> simp [eq_comm]

end PrecedenceAux

open PrecedenceAux

/-- For every command line that is accepted and whatever is found at paths:

1. The words name exactly one properties file.
2. Where nothing is found at its path and the path is the default name, the settings come from the words and the defaults alone.
   It does not matter whether the words have given that name.
3. Everywhere else the file is read. That it cannot be read is a fault, and so is that its text is none of a properties file.
   Either fault names the path.
4. With the properties that have been read, the settings come from the words, from the file and from the defaults, in this
   order. The only fault left is that neither the words nor the file name an interpreter. -/
theorem settings_by_precedence {words : List String} {line : CommandLine} (folder : Host.Folder) (hline : parse words = .ok line) :
    (∃! path, NamesProperties words path) ∧ ∀ path, NamesProperties words path →
      (folder.hasPath path = false → SpellsDefault path → Answers words .empty (line.resolve folder)) ∧
      (folder.hasPath path = true ∨ ¬SpellsDefault path →
        (∀ fault, folder.readText path = .error fault → line.resolve folder = .error (.unreadable path fault)) ∧
        ∀ text, folder.readText path = .ok text →
          (∀ fault, Properties.parse text = .error fault → line.resolve folder = .error (.unparsable path fault)) ∧
          ∀ file, Properties.parse text = .ok file → Answers words file (line.resolve folder)) := by
  obtain ⟨texts, hholds, hgives⟩ := parse_holds hline
  simp only [namesProperties_iff hholds hgives]
  refine ⟨⟨_, rfl, fun _ h => h⟩, ?_⟩
  rintro path rfl
  refine ⟨fun hpath hdefault => ?_, fun hnamed => ?_⟩
  · have hfind : line.findProperties folder = .ok .empty := by
      rw [findProperties, hpath, isDefaultProperties_iff.2 hdefault]
      rfl
    rw [resolve, hfind]
    exact answers_ofSources hholds hgives .empty
  · have hfind : line.findProperties folder = Properties.load folder line.propertiesPath := by
      refine if_pos ?_
      rw [Bool.or_eq_true, Bool.not_eq_true', ← Bool.not_eq_true, isDefaultProperties_iff]
      exact hnamed
    rw [resolve, hfind]
    refine ⟨fun fault hread => ?_, fun text hread => ⟨fun fault hparse => ?_, fun file hparse => ?_⟩⟩
    · simp only [Properties.load, hread]
      rfl
    · simp only [Properties.load, hread, hparse]
      rfl
    · simp only [Properties.load, hread, hparse]
      exact answers_ofSources hholds hgives file

/-- Words and a file that give some settings each. Both give the interval, and that of the words is taken. -/
theorem settings_by_precedence_mixed :
    let words := ["--tick-ms=250", "prog.bin", "--properties", "p.json"]
    let file : Properties := ⟨some "./run", none, some 40, none⟩
    let folder := Host.Folder.ofFiles [("p.json", (String.ofList file.written).toByteArray)]
    ∃ line, parse words = .ok line ∧ Chosen words file ⟨"./run", "prog.bin", "env.json", 250, 2⟩ ∧
      line.resolve folder = .ok ⟨"./run", "prog.bin", "env.json", 250, 2⟩ := by
  intro words file folder
  have hline : parse words = .ok ⟨"prog.bin", some "p.json", none, none, some 250, none, none, none⟩ := by decide +kernel
  have hnames : NamesProperties words "p.json" := .inl ⟨["--tick-ms=250", "prog.bin"], [], by decide, .inl rfl⟩
  have hpath : folder.hasPath "p.json" = true := by decide +kernel
  have htext : folder.readText "p.json" = .ok (String.ofList file.written) := by decide +kernel
  have hfile : Properties.parse (String.ofList file.written) = .ok file := Properties.parse_written ⟨by decide, nofun⟩
  obtain ⟨-, hpaths⟩ := settings_by_precedence folder hline
  have hanswers := (((hpaths _ hnames).2 (.inl hpath)).2 _ htext).2 _ hfile
  have hresolve : resolve ⟨"prog.bin", some "p.json", none, none, some 250, none, none, none⟩ folder =
      .ok ⟨"./run", "prog.bin", "env.json", 250, 2⟩ := by decide +kernel
  rw [hresolve] at hanswers
  exact ⟨_, hline, hanswers, hresolve⟩

/-- The words may name the properties file that is missing, as long as they do so by its default name. -/
theorem named_default_may_be_missing :
    let words := ["prog.bin", "--properties", "properties.json", "--interpreter", "./interp"]
    let folder := Host.Folder.ofFiles []
    Gives words .properties "properties.json" ∧ folder.readText "properties.json" = .error .notFound ∧
      ∃ line, parse words = .ok line ∧ line.resolve folder = .ok ⟨"./interp", "prog.bin", "env.json", 1000, 2⟩ := by
  refine ⟨⟨["prog.bin"], _, by decide, .inl rfl⟩, by decide +kernel, ?_⟩
  refine ⟨⟨"prog.bin", some "properties.json", some "./interp", none, none, none, none, none⟩, by decide +kernel, by decide +kernel⟩

end CommandLine

end TracePlayer
