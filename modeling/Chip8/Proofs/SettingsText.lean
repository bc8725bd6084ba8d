import Chip8.Settings.Writer
import Chip8.Proofs.Lexeme

/-!
# Settings survive their text

A settings object may name any of the six fields in any order, may name the rate of clocked
timers before or behind their mode, and may have blanks around every lexeme. Reading it member
by member keeps one invariant: the settings in progress are those written, on the fields named
so far, and the defaults elsewhere.
-/

namespace Chip8.Settings

open Json

/-- The settings on the given fields, and the defaults on the others. -/
def only (settings : Settings) (fields : List Field) : Settings :=
  let unset : Settings := {}
  { shiftUsesVy :=
      if .shiftUsesVy ∈ fields then settings.shiftUsesVy else unset.shiftUsesVy
    loadStoreInclusive :=
      if .loadStoreInclusive ∈ fields then settings.loadStoreInclusive
      else unset.loadStoreInclusive
    loadStoreIncrementsIndex :=
      if .loadStoreIncrementsIndex ∈ fields then settings.loadStoreIncrementsIndex
      else unset.loadStoreIncrementsIndex
    borrowFlagOnEqual :=
      if .borrowFlagOnEqual ∈ fields then settings.borrowFlagOnEqual
      else unset.borrowFlagOnEqual
    timers := if .timers ∈ fields then settings.timers else unset.timers
    seed := if .seed ∈ fields then settings.seed else unset.seed }

/-- Only which fields are given matters. -/
theorem only_congr (settings : Settings) {first second : List Field}
    (same : ∀ field, field ∈ first ↔ field ∈ second) :
    settings.only first = settings.only second := by
  simp only [only, same]

/-- All fields are all of the settings. -/
theorem only_all (settings : Settings) : settings.only Field.all = settings := rfl

/-- The name of a mode. -/
def Mode.name : Mode → String
  | perTick => "per_tick"
  | clocked => "clocked"

/-- The name of a field has only characters that stand for themselves in a quoted text. -/
theorem Field.name_plain (field : Field) : field.name.toList.all isPlain = true := by
  cases field <;> decide

/-- So has the name of a mode. -/
theorem Mode.name_plain (mode : Mode) : mode.name.toList.all isPlain = true := by
  cases mode <;> decide

/-- So has the name of the member that gives the mode. -/
theorem modeKey_plain : "mode".toList.all isPlain = true := by decide

/-- So has the name of the member that gives the rate. -/
theorem rateKey_plain : "hz".toList.all isPlain = true := by decide

/-- The member of a pace that gives its mode. -/
def modeLexemes (mode : Mode) : List Lexeme :=
  [.quoted "mode" modeKey_plain, .colon, .quoted mode.name mode.name_plain]

/-- The member of a pace that gives its rate. -/
def rateLexemes (hz : UInt32) : List Lexeme :=
  [.quoted "hz" rateKey_plain, .colon, .natural hz.toUInt64]

/-- The members of a pace, with the rate before or behind the mode. -/
def paceMembers (rateFirst : Bool) : TimerMode → List Lexeme
  | .perTick => modeLexemes .perTick
  | .clocked hz =>
    if rateFirst then rateLexemes hz ++ .comma :: modeLexemes .clocked
    else modeLexemes .clocked ++ .comma :: rateLexemes hz

/-- The pace of the timers as an object. -/
def paceLexemes (rateFirst : Bool) (mode : TimerMode) : List Lexeme :=
  .openObject :: paceMembers rateFirst mode ++ [.closeObject]

/-- Only one number stands in a pace. -/
theorem paceLexemes_separated (rateFirst : Bool) (mode : TimerMode) :
    Separated (paceLexemes rateFirst mode) := by
  cases mode <;> cases rateFirst <;>
    simp [Separated, paceLexemes, paceMembers, modeLexemes, rateLexemes, Lexeme.isNatural]

/-- A truth value. -/
def truthLexeme (value : Bool) : Lexeme :=
  .word (if value then .true else .false)

/-- A seed; without one the word for nothing. -/
def seedLexeme : Option UInt64 → Lexeme
  | none => .word .null
  | some seed => .natural seed

section Object

variable (settings : Settings) (rateFirst : Bool)

/-- The value of a field. -/
def valueLexemes : Field → List Lexeme
  | .shiftUsesVy => [truthLexeme settings.shiftUsesVy]
  | .loadStoreInclusive => [truthLexeme settings.loadStoreInclusive]
  | .loadStoreIncrementsIndex => [truthLexeme settings.loadStoreIncrementsIndex]
  | .borrowFlagOnEqual => [truthLexeme settings.borrowFlagOnEqual]
  | .timers => paceLexemes rateFirst settings.timers
  | .seed => [seedLexeme settings.seed]

/-- The name and value of a field. -/
def memberLexemes (field : Field) : List Lexeme :=
  .quoted field.name field.name_plain :: .colon :: settings.valueLexemes rateFirst field

/-- The members of the given fields in their order. -/
def membersLexemes (fields : List Field) : List Lexeme :=
  [.comma].intercalate (fields.map (settings.memberLexemes rateFirst))

/-- The settings as an object with the given fields in their order. -/
def objectLexemes (fields : List Field) : List Lexeme :=
  .openObject :: settings.membersLexemes rateFirst fields ++ [.closeObject]

/-- The members of a list of fields: the first one, and behind a comma the others. -/
theorem membersLexemes_cons (first next : Field) (fields : List Field) :
    settings.membersLexemes rateFirst (first :: next :: fields)
      = settings.memberLexemes rateFirst first
        ++ .comma :: settings.membersLexemes rateFirst (next :: fields) := by
  simp [membersLexemes, List.intercalate_cons_cons]

/-- A value may stand before anything that is not a number. -/
theorem valueLexemes_separated (field : Field) {lexeme : Lexeme} {lexemes : List Lexeme}
    (other : lexeme.isNatural = false) (separated : Separated (lexeme :: lexemes)) :
    Separated (settings.valueLexemes rateFirst field ++ lexeme :: lexemes) := by
  have value : Separated (settings.valueLexemes rateFirst field) := by
    cases field with
    | timers => exact paceLexemes_separated rateFirst settings.timers
    | _ => exact List.isChain_singleton _
  refine List.isChain_append.mpr ⟨value, separated, ?_⟩
  intro last _ first isFirst _
  rw [List.head?_cons, Option.mem_some_iff] at isFirst
  exact isFirst ▸ other

/-- The same of a member. -/
theorem memberLexemes_separated (field : Field) {lexeme : Lexeme} {lexemes : List Lexeme}
    (other : lexeme.isNatural = false) (separated : Separated (lexeme :: lexemes)) :
    Separated (settings.memberLexemes rateFirst field ++ lexeme :: lexemes) := by
  have value := settings.valueLexemes_separated rateFirst field other separated
  simpa [memberLexemes, Separated, List.isChain_cons, Lexeme.isNatural] using value

/-- In an object every number stands before a comma or a closing bracket. -/
theorem objectLexemes_separated (fields : List Field) :
    Separated (settings.objectLexemes rateFirst fields) := by
  have closing : Separated [.closeObject] := List.isChain_singleton _
  have members : Separated (settings.membersLexemes rateFirst fields ++ [.closeObject]) := by
    induction fields with
    | nil => exact closing
    | cons field fields inductionHypothesis =>
      cases fields with
      | nil =>
        simpa [membersLexemes] using settings.memberLexemes_separated rateFirst field rfl closing
      | cons next fields =>
        rw [membersLexemes_cons, List.append_assoc]
        refine settings.memberLexemes_separated rateFirst field rfl ?_
        exact List.isChain_cons.mpr
          ⟨fun _ _ comma => absurd comma (by decide), inductionHypothesis⟩
  exact List.isChain_cons.mpr ⟨fun _ _ opening => absurd opening (by decide), members⟩

end Object

/-- Settings with one field as in other settings. -/
def taking (settings source : Settings) : Field → Settings
  | .shiftUsesVy => { settings with shiftUsesVy := source.shiftUsesVy }
  | .loadStoreInclusive => { settings with loadStoreInclusive := source.loadStoreInclusive }
  | .loadStoreIncrementsIndex =>
    { settings with loadStoreIncrementsIndex := source.loadStoreIncrementsIndex }
  | .borrowFlagOnEqual => { settings with borrowFlagOnEqual := source.borrowFlagOnEqual }
  | .timers => { settings with timers := source.timers }
  | .seed => { settings with seed := source.seed }

/-- One more given field is one more field taken over. -/
theorem only_cons (settings : Settings) (field : Field) (fields : List Field) :
    settings.only (field :: fields) = (settings.only fields).taking settings field := by
  cases field <;> simp [only, taking]

/-- From one draft the reader gets to another over the tokens of the lexemes. -/
def Draft.Reads (draft : Draft) (lexemes : List Lexeme) (after : Draft) : Prop :=
  (lexemes.map Lexeme.token).foldlM Draft.step draft = .ok after

namespace Draft.Reads

/-- No lexemes leave a draft as it is. -/
theorem nil (draft : Draft) : draft.Reads [] draft := rfl

/-- A lexeme is read by one step, the rest from where the step leads. -/
theorem cons {draft between after : Draft} {lexeme : Lexeme} {lexemes : List Lexeme}
    (first : draft.step lexeme.token = .ok between) (others : between.Reads lexemes after) :
    draft.Reads (lexeme :: lexemes) after := by
  rw [Reads, List.map_cons, List.foldlM_cons, first]
  exact others

/-- What is read in two parts is read as a whole. -/
theorem append {draft between after : Draft} {first second : List Lexeme}
    (front : draft.Reads first between) (back : between.Reads second after) :
    draft.Reads (first ++ second) after := by
  rw [Reads, List.map_append, List.foldlM_append, front]
  exact back

/-- A single lexeme is read by one step. -/
theorem single {draft after : Draft} {lexeme : Lexeme}
    (step : draft.step lexeme.token = .ok after) : draft.Reads [lexeme] after :=
  cons step (nil after)

end Draft.Reads

/-- A pace whose members have been read. -/
def readPace : TimerMode → Pace
  | .perTick => ⟨some .perTick, [], false, .separator⟩
  | .clocked hz => ⟨some .clocked, [some hz.toUInt64.toNat], false, .separator⟩

/-- The members of a pace are read in either order. -/
theorem paceMembers_read (draft : Draft) (rateFirst : Bool) (mode : TimerMode) :
    Draft.Reads { draft with place := .value .timers }
      (.openObject :: paceMembers rateFirst mode)
      { draft with place := .pace (readPace mode) } := by
  cases mode with
  | perTick => rfl
  | clocked hz => cases rateFirst <;> rfl

/-- The closing bracket finds the pace that was written; a rate of 32 bits fits. -/
theorem readPace_closed (mode : TimerMode) :
    (readPace mode).step .closeObject = .ok (.done mode) := by
  cases mode with
  | perTick => rfl
  | clocked hz =>
    have fits : hz.toNat < 0x100000000 := hz.toNat_lt
    simp [readPace, Pace.step, Pace.takeSeparator, Pace.finish, Pace.clockedRate, fits,
      Except.map]

/-- A written switch is taken as its value. -/
theorem truth_token (value : Bool) : Draft.truth (truthLexeme value).token = .ok value := by
  cases value <;> rfl

/-- A written seed is taken as itself, `null` as none. -/
theorem seedOf_token (seed : Option UInt64) :
    Draft.seedOf (seedLexeme seed).token = .ok seed := by
  cases seed with
  | none => rfl
  | some seed => simp [seedLexeme, Lexeme.token, Draft.seedOf]

/-- A field is found by its name. -/
theorem Field.ofBytes_name (field : Field) :
    Field.ofBytes (Utf8.encode field.name) = some field := by
  cases field <;> decide

section Read

variable (settings : Settings) (rateFirst : Bool)

/-- The value of a field is read to its end, and the draft then has it. -/
theorem valueLexemes_read (field : Field) (draft : Draft) :
    Draft.Reads { draft with place := .value field } (settings.valueLexemes rateFirst field)
      (draft.known (draft.settings.taking settings field)) := by
  cases field with
  | timers =>
    refine .append (paceMembers_read draft rateFirst settings.timers) (.single ?_)
    simp [Lexeme.token, Draft.step, readPace_closed, Draft.known, taking]
  | seed =>
    refine .single ?_
    simp [Draft.step, Draft.takeValue, seedOf_token, Except.map, Draft.known, taking]
  | _ =>
    refine .single ?_
    simp [Draft.step, Draft.takeValue, truth_token, Except.map, Draft.known, taking]

/-- The draft of written settings of which some fields have been named and read. -/
def drafted (named : List Field) (place : Place) : Draft :=
  ⟨settings.only named, named, none, place⟩

/-- A member of a new name is read to its end. -/
theorem memberLexemes_read {field : Field} {named : List Field} (new : field ∉ named)
    {place : Place} (ready : place = .firstName ∨ place = .name) :
    (settings.drafted named place).Reads (settings.memberLexemes rateFirst field)
      (settings.drafted (field :: named) .separator) := by
  have name : (settings.drafted named place).step (.text (.ok (Utf8.encode field.name)) (.ok ()))
      = .ok ⟨settings.only named, field :: named, none, .colon (some field)⟩ := by
    obtain rfl | rfl := ready <;>
      simp [drafted, Draft.step, Draft.takeName, Field.ofBytes_name, new]
  have value := settings.valueLexemes_read rateFirst field
    ⟨settings.only named, field :: named, none, .value field⟩
  have taken : Draft.mk ((settings.only named).taking settings field) (field :: named) none
      .separator = settings.drafted (field :: named) .separator := by
    rw [drafted, only_cons]
  exact .cons name (.cons rfl (taken ▸ value))

/-- Members of distinct new names are read in their order. -/
theorem membersLexemes_read {field : Field} {fields named : List Field}
    (distinct : (field :: fields).Nodup) (new : ∀ other ∈ field :: fields, other ∉ named)
    {place : Place} (ready : place = .firstName ∨ place = .name) :
    (settings.drafted named place).Reads (settings.membersLexemes rateFirst (field :: fields))
      (settings.drafted ((field :: fields).reverse ++ named) .separator) := by
  induction fields generalizing field named place with
  | nil =>
    simpa [membersLexemes] using
      settings.memberLexemes_read rateFirst (new field List.mem_cons_self) ready
  | cons next fields inductionHypothesis =>
    obtain ⟨once, distinct⟩ := List.nodup_cons.mp distinct
    have othersNew : ∀ other ∈ next :: fields, other ∉ field :: named := by
      intro other member alreadyNamed
      rcases List.mem_cons.mp alreadyNamed with rfl | before
      · exact once member
      · exact new other (List.mem_cons_of_mem field member) before
    have first := settings.memberLexemes_read rateFirst (new field List.mem_cons_self) ready
    have others := inductionHypothesis distinct othersNew (.inr rfl)
    rw [membersLexemes_cons, List.reverse_cons, List.append_assoc]
    exact .append first (.cons rfl others)

/-- An object with distinct fields is read to the settings on these fields. -/
theorem objectLexemes_read {fields : List Field} (distinct : fields.Nodup) :
    Draft.start.Reads (settings.objectLexemes rateFirst fields)
      (settings.drafted fields.reverse .finished) := by
  cases fields with
  | nil => rfl
  | cons field fields =>
    have members := settings.membersLexemes_read rateFirst distinct
      (fun _ _ => List.not_mem_nil) (.inl rfl)
    rw [List.append_nil] at members
    exact .append (.cons rfl members) (.single rfl)

/-- A text of an object with distinct fields is read to the settings on these fields. -/
theorem parse_objectLexemes {fields : List Field} (distinct : fields.Nodup) {text : String}
    (spells : Spells (settings.objectLexemes rateFirst fields) text) :
    parse text = .ok (settings.only fields) := by
  have read := foldTokens_spells Draft.step spells
    (settings.objectLexemes_separated rateFirst fields) Draft.start
  rw [settings.objectLexemes_read rateFirst distinct] at read
  have finished : (settings.drafted fields.reverse .finished).finish
      = .ok (settings.only fields.reverse) := rfl
  have same := settings.only_congr fun field : Field => @List.mem_reverse _ field fields
  rw [parse, ofBytes, read]
  simp only [bind, Except.bind, finished, same]

end Read

/-- A pace as text is its object without blanks, the mode first. -/
theorem joined_paceLexemes (mode : TimerMode) :
    Lexeme.joined (paceLexemes false mode) = paceText mode := by
  -- The equations of `paceText` are stated here, since `simp` is slow to derive them.
  cases mode with
  | perTick =>
    have printed : paceText .perTick = "\x7b\"mode\":\"per_tick\"\x7d" := rfl
    simp [paceLexemes, paceMembers, modeLexemes, Lexeme.joined, Lexeme.text, Mode.name, printed]
  | clocked hz =>
    have printed : paceText (.clocked hz) = "\x7b\"mode\":\"clocked\",\"hz\":"
        ++ Decimal.numeral hz.toNat ++ "\x7d" := rfl
    have front : Lexeme.joined (.openObject :: modeLexemes .clocked ++
        [.comma, .quoted "hz" rateKey_plain, .colon])
        = "\x7b\"mode\":\"clocked\",\"hz\":" := by
      simp [modeLexemes, Lexeme.joined, Lexeme.text, Mode.name]
    have parts : paceLexemes false (.clocked hz) = (.openObject :: modeLexemes .clocked ++
        [.comma, .quoted "hz" rateKey_plain, .colon]) ++ [.natural hz.toUInt64, .closeObject] :=
      rfl
    rw [parts, Lexeme.joined_append, front, printed]
    simp [Lexeme.joined, Lexeme.text, String.append_assoc]

/-- A member as text is its lexemes without blanks. -/
theorem joined_memberLexemes (settings : Settings) (field : Field) :
    Lexeme.joined (settings.memberLexemes false field) = settings.memberText field := by
  have truth (value : Bool) : (truthLexeme value).text = truthText value := by
    cases value <;> rfl
  have seed (seed : Option UInt64) : (seedLexeme seed).text = seedText seed := by
    cases seed <;> rfl
  have value : Lexeme.joined (settings.valueLexemes false field) = settings.valueText field := by
    cases field with
    | timers => exact joined_paceLexemes settings.timers
    | seed => simp [valueLexemes, Lexeme.joined, seed, valueText]
    | _ => simp [valueLexemes, Lexeme.joined, truth, valueText]
  have closed : "\"" ++ ":" = "\":" := by decide
  rw [memberText, ← value, ← closed]
  simp only [memberLexemes, Lexeme.joined, Lexeme.text, String.append_assoc]

/-- Members as text are separated by commas. -/
theorem joined_membersLexemes (settings : Settings) (fields : List Field) :
    Lexeme.joined (settings.membersLexemes false fields)
      = ",".intercalate (fields.map settings.memberText) := by
  induction fields with
  | nil => rfl
  | cons field fields inductionHypothesis =>
    cases fields with
    | nil => simp [membersLexemes, joined_memberLexemes]
    | cons next fields =>
      rw [membersLexemes_cons, Lexeme.joined_append, joined_memberLexemes, Lexeme.joined,
        inductionHypothesis, List.map_cons, List.map_cons, List.map_cons,
        String.intercalate_cons_cons, String.append_assoc]
      rfl

/-- The settings as text are an object with all fields and no blanks. -/
theorem joined_objectLexemes (settings : Settings) :
    Lexeme.joined (settings.objectLexemes false Field.all) = settings.toJson := by
  simp [objectLexemes, Lexeme.joined, Lexeme.joined_append, joined_membersLexemes, Lexeme.text,
    toJson, String.append_assoc]

/-- Settings survive JSON. Take an object that names any of the six fields, each at most once
and in any order, with the rate of clocked timers before or behind their mode and with any
blanks around its lexemes. It is read without a problem, to the written settings on the fields
it names and to the defaults on the others. The text that settings are printed as is such an
object with all fields, so it is read back to the settings themselves.

Proof: the text is read as the tokens of its lexemes, since numbers in it stand apart. The
reader takes these member by member, and one more member is one more field taken over. The
printed text is that of all lexemes without blanks, and all fields are all of the settings. -/
theorem survive_json (settings : Settings) :
    (∀ (fields : List Field) (rateFirst : Bool) (text : String), fields.Nodup →
      Spells (settings.objectLexemes rateFirst fields) text →
      parse text = .ok (settings.only fields)) ∧
    parse settings.toJson = .ok settings := by
  have read (fields : List Field) (rateFirst : Bool) (text : String) (distinct : fields.Nodup)
      (spells : Spells (settings.objectLexemes rateFirst fields) text) :
      parse text = .ok (settings.only fields) :=
    settings.parse_objectLexemes rateFirst distinct spells
  have printed : Spells (settings.objectLexemes false Field.all) settings.toJson :=
    settings.joined_objectLexemes ▸ spells_joined _
  have whole := read Field.all false settings.toJson (by decide) printed
  rw [only_all] at whole
  exact ⟨read, whole⟩

/-- The largest seed and a rate before its mode, with blanks; the switches of the written
settings are left out and keep their defaults. Two written objects name all six fields: no
two switches are alike in both, so each name is that of its own field. -/
theorem rate_before_mode :
    parse ("\n\x7b\t \"rng_seed\":18446744073709551615,"
        ++ "\"timers\":\x7b\"hz\":60,\"mode\":\"clocked\"\x7d\x7d")
      = .ok { timers := .clocked 60, seed := some 0xFFFFFFFFFFFFFFFF } ∧
    parse ("\x7b\"shift_uses_vy\":true,\"load_store_inclusive\":true,"
        ++ "\"load_store_increments_i\":false,\"borrow_flag_on_equal\":false,"
        ++ "\"timers\":\x7b\"mode\":\"clocked\",\"hz\":60\x7d,\"rng_seed\":7\x7d")
      = .ok
        { shiftUsesVy := true
          loadStoreInclusive := true
          timers := .clocked 60
          seed := some 7 } ∧
    parse ("\x7b\"shift_uses_vy\":true,\"load_store_inclusive\":false,"
        ++ "\"load_store_increments_i\":true,\"borrow_flag_on_equal\":false,"
        ++ "\"timers\":\x7b\"mode\":\"per_tick\"\x7d,\"rng_seed\":null\x7d")
      = .ok { shiftUsesVy := true, loadStoreIncrementsIndex := true } := by
  have spelt : Spells
      (objectLexemes { legacy with timers := .clocked 60, seed := some 0xFFFFFFFFFFFFFFFF } true
        [.seed, .timers]) _ :=
    @Spells.next "\n" _ _ .openObject (by decide)
      (@Spells.next "\t " _ _ (.quoted "rng_seed" (Field.name_plain .seed)) (by decide)
        (spells_joined _))
  have written {settings : Settings} {text : String} (text_eq : text = settings.toJson) :
      parse text = .ok settings :=
    text_eq ▸ (survive_json settings).2
  refine ⟨Eq.trans (congrArg parse ?_)
    ((survive_json _).1 [.seed, .timers] true _ (by decide) spelt), written ?_, written ?_⟩
  all_goals decide +kernel

end Chip8.Settings
