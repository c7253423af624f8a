import ApiStub.Mock.Format
import ApiStub.Proofs.AddressGroups
import ApiStub.Proofs.CalendarDays
import ApiStub.Proofs.FillerShape
import ApiStub.Proofs.Numerals

/-!
# The forms of string formats

Every format has a grammar, stated here without its generator. What is generated is in the grammar,
whatever the words and the endings of host names are: words lose what is neither letter nor digit,
and another word stands in for one of which nothing is left. Numbers are read back from what is
written, so the date and the instant are the drawn ones and an address has the drawn groups.
-/

namespace ApiStub.Mock

open Api (TextFormat)
open Text (FixedWidth Spells fixedWidth_padded spells_toDigits)

/-! ## Grammars -/

/-- Letters and digits, one at least. -/
def IsLabel (text : List Char) : Prop := text ≠ [] ∧ ∀ c ∈ text, c.isAlphanum = true

/-- A label and an ending of two letters at least. -/
def IsHostname (text : List Char) : Prop :=
  ∃ label ending, text = label ++ '.' :: ending ∧ IsLabel label ∧ 2 ≤ ending.length ∧
    ∀ c ∈ ending, c.isAlpha = true

/-- A label and a number from 1 to 999, at a host. -/
def IsEmail (text : List Char) : Prop :=
  ∃ user digits number host, text = user ++ '.' :: digits ++ '@' :: host ∧ IsLabel user ∧
    Spells 10 digits number ∧ 1 ≤ number ∧ number ≤ 999 ∧ IsHostname host

/-- A host over the secure protocol, and one path segment, which may be empty. -/
def IsUri (text : List Char) : Prop :=
  ∃ host segment, text = "https://".toList ++ host ++ '/' :: segment ∧ IsHostname host ∧
    ∀ c ∈ segment, c.isAlphanum = true

/-- A hexadecimal digit in a small letter. -/
def IsHexDigit (c : Char) : Prop := c ∈ "0123456789abcdef".toList

/-- Groups of 8, 4, 4, 4 and 12 digits, with the version in the third and the variant in the
fourth. -/
def IsIdentifier (text : List Char) : Prop :=
  ∃ first second third fourth fifth variant,
    text = first ++ '-' :: second ++ '-' :: '4' :: third ++ '-' :: variant :: fourth ++
      '-' :: fifth ∧
    first.length = 8 ∧ second.length = 4 ∧ third.length = 3 ∧ fourth.length = 3 ∧
    fifth.length = 12 ∧ variant ∈ ['8', '9', 'a', 'b'] ∧
    ∀ c ∈ first ++ second ++ third ++ fourth ++ fifth, IsHexDigit c

/-- Four bytes with points between them. -/
def WritesBytes (text : List Char) (bytes : List Nat) : Prop :=
  bytes.length = 4 ∧ ∃ fields, text = ['.'].intercalate fields ∧
    List.Forall₂ (fun field byte => Spells 10 field byte ∧ byte ≤ 255) fields bytes

/-- Eight groups of up to four hexadecimal digits with colons between them. -/
def WritesGroups (text : List Char) (groups : List Nat) : Prop :=
  groups.length = 8 ∧ ∃ fields, text = [':'].intercalate fields ∧
    List.Forall₂ (fun field group => 1 ≤ field.length ∧ field.length ≤ 4 ∧ Spells 16 field group)
      fields groups

/-- Year, month and day of a date. -/
def WritesDate (text : List Char) (date : Date) : Prop :=
  ∃ year month day, text = year ++ '-' :: month ++ '-' :: day ∧ 0 ≤ date.year ∧
    FixedWidth 4 year date.year.toNat ∧ FixedWidth 2 month date.month ∧ FixedWidth 2 day date.day

/-- A date of the calendar and a time of that day, without an offset from UTC. -/
def WritesInstant (text : List Char) (seconds : Int) : Prop :=
  ∃ day date hours hour minutes minute rest second,
    text = day ++ 'T' :: hours ++ ':' :: minutes ++ ':' :: rest ++ "+00:00".toList ∧
    WritesDate day date ∧ date.IsValid ∧ FixedWidth 2 hours hour ∧ hour < 24 ∧
    FixedWidth 2 minutes minute ∧ minute < 60 ∧ FixedWidth 2 rest second ∧ second < 60 ∧
    seconds = date.dayNumber * 86400 + hour * 3600 + minute * 60 + second

variable {σ : Type} [WordSource σ]

/-! ## Names -/

theorem isLabel_orElse {fallback : String} {word : List Char}
    (some_fallback : fallback.toList ≠ [])
    (fallback_plain : ∀ c ∈ fallback.toList, c.isAlphanum = true)
    (plain : ∀ c ∈ word, c.isAlphanum = true) : IsLabel (orElse fallback word) :=
  ⟨orElse_ne_nil some_fallback word, orElse_isAlphanum fallback_plain plain⟩

theorem yields_suffix (vocabulary : Vocabulary) :
    (suffix vocabulary : Draw σ (List Char)).Yields fun ending =>
      2 ≤ ending.length ∧ ∀ c ∈ ending, c.isAlpha = true := by
  refine (Draw.yields_trivial (Draw.choose? vocabulary.suffixes)).map fun chosen _ => ?_
  dsimp only
  split
  · rename_i fits
    simpa using fits
  · simp

theorem yields_hostname (vocabulary : Vocabulary) :
    (hostname vocabulary : Draw σ (List Char)).Yields IsHostname := by
  refine (yields_suffix vocabulary).bind fun ending ending_fits => ?_
  refine (yields_word_isAlphanum vocabulary).bind fun label plain => ?_
  apply Draw.yields_pure
  have label : IsLabel (orElse "example" label) := isLabel_orElse (by simp) (by simp) plain
  exact ⟨_, ending, rfl, label, ending_fits⟩

theorem yields_email (vocabulary : Vocabulary) :
    (email vocabulary : Draw σ (List Char)).Yields IsEmail := by
  refine (yields_word_isAlphanum vocabulary).bind fun user plain => ?_
  have numbers : (1 : Nat) ≤ 999 := by decide
  refine (Draw.yields_natBetween .bits32 numbers).bind fun number bounds => ?_
  refine (yields_hostname vocabulary).bind fun host isHost => ?_
  apply Draw.yields_pure
  have user : IsLabel (orElse "user" user) := isLabel_orElse (by simp) (by simp) plain
  exact ⟨_, _, number, host, by simp, user, spells_toDigits (by decide) (by decide) number,
    bounds.1, bounds.2, isHost⟩

theorem yields_uri (vocabulary : Vocabulary) :
    (uri vocabulary : Draw σ (List Char)).Yields IsUri := by
  refine (yields_hostname vocabulary).bind fun host isHost => ?_
  refine (yields_word_isAlphanum vocabulary).bind fun segment plain => ?_
  apply Draw.yields_pure
  exact ⟨host, segment, rfl, isHost, plain⟩

/-! ## Identifiers -/

theorem isHexDigit_digitChar : ∀ digit < 16, IsHexDigit (Nat.digitChar digit) := by
  unfold IsHexDigit
  decide

theorem isHexDigit_of_mem_hexByte {byte : Nat} {c : Char} (mem : c ∈ hexByte byte) :
    IsHexDigit c := by
  simp only [hexByte, List.mem_cons, List.not_mem_nil, or_false] at mem
  rcases mem with rfl | rfl
  · exact isHexDigit_digitChar _ (Nat.mod_lt _ (by decide))
  · exact isHexDigit_digitChar _ (Nat.mod_lt _ (by decide))

theorem isHexDigit_of_mem_flatMap {bytes : List Nat} {c : Char} (mem : c ∈ bytes.flatMap hexByte) :
    IsHexDigit c := by
  rcases List.mem_flatMap.mp mem with ⟨byte, _, mem⟩
  exact isHexDigit_of_mem_hexByte mem

theorem length_flatMap_hexByte (bytes : List Nat) :
    (bytes.flatMap hexByte).length = 2 * bytes.length := by
  induction bytes with
  | nil => rfl
  | cons byte rest ih =>
      rw [List.flatMap_cons, List.length_append, ih, List.length_cons]
      simp only [hexByte, List.length_cons, List.length_nil]
      omega

theorem hexByte_version (byte : Nat) :
    hexByte (0x40 + byte % 16) = ['4', Nat.digitChar (byte % 16)] := by
  have high : (0x40 + byte % 16) / 16 % 16 = 4 := by omega
  have low : (0x40 + byte % 16) % 16 = byte % 16 := by omega
  rw [hexByte, high, low]
  rfl

theorem hexByte_variant (byte : Nat) : ∃ variant ∈ ['8', '9', 'a', 'b'],
    hexByte (0x80 + byte % 64) = [variant, Nat.digitChar (byte % 16)] := by
  have high : ∀ digit < 16, 8 ≤ digit → digit < 12 →
      Nat.digitChar digit ∈ ['8', '9', 'a', 'b'] := by
    decide
  have low : (0x80 + byte % 64) % 16 = byte % 16 := by omega
  refine ⟨_, high ((0x80 + byte % 64) / 16 % 16) ?_ ?_ ?_, by rw [hexByte, low]⟩ <;> omega

/-- Sixteen bytes with a version and a variant are written as an identifier. -/
theorem isIdentifier_of_marked {bytes : List Nat} {versioned varied : Nat}
    (sixteen : bytes.length = 16) (version : bytes[6] = 0x40 + versioned % 16)
    (variant : bytes[8] = 0x80 + varied % 64) : IsIdentifier (writeIdentifier bytes) := by
  rcases hexByte_variant varied with ⟨mark, mark_mem, marked⟩
  have third : (bytes.drop 6).take 2 = bytes[6] :: (bytes.drop 7).take 1 := by
    rw [List.drop_eq_getElem_cons]
    rfl
  have fourth : (bytes.drop 8).take 2 = bytes[8] :: (bytes.drop 9).take 1 := by
    rw [List.drop_eq_getElem_cons]
    rfl
  refine ⟨((bytes.drop 0).take 4).flatMap hexByte, ((bytes.drop 4).take 2).flatMap hexByte,
    Nat.digitChar (versioned % 16) :: ((bytes.drop 7).take 1).flatMap hexByte,
    Nat.digitChar (varied % 16) :: ((bytes.drop 9).take 1).flatMap hexByte,
    ((bytes.drop 10).take 6).flatMap hexByte, mark, ?_, ?_, ?_, ?_, ?_, ?_, mark_mem, ?_⟩
  · simp only [writeIdentifier, third, fourth, version, variant, List.flatMap_cons,
      hexByte_version, marked]
    rfl
  iterate 5
    · simp only [List.length_cons, length_flatMap_hexByte, List.length_take, List.length_drop,
        sixteen]
      rfl
  · intro c mem
    simp only [List.mem_append, List.mem_cons] at mem
    rcases mem with (((first | second) | last | third) | last | fourth) | fifth
    · exact isHexDigit_of_mem_flatMap first
    · exact isHexDigit_of_mem_flatMap second
    · rw [last]
      exact isHexDigit_digitChar _ (Nat.mod_lt _ (by decide))
    · exact isHexDigit_of_mem_flatMap third
    · rw [last]
      exact isHexDigit_digitChar _ (Nat.mod_lt _ (by decide))
    · exact isHexDigit_of_mem_flatMap fourth
    · exact isHexDigit_of_mem_flatMap fifth

theorem yields_uuid : (uuid : Draw σ (List Char)).Yields IsIdentifier := by
  refine (Draw.yields_times (Draw.yields_word .bits32) 16).map fun words facts => ?_
  have sixteen : (words.map (· % 256)).length = 16 := by rw [List.length_map, facts.1]
  generalize words.map (· % 256) = bytes at sixteen
  have marked : (markVersion bytes).length = 16 := by rw [markVersion, List.length_mapIdx, sixteen]
  apply isIdentifier_of_marked marked
  · rw [show (markVersion bytes)[6] = 0x40 + bytes[6] % 16 by simp [markVersion]]
  · rw [show (markVersion bytes)[8] = 0x80 + bytes[8] % 64 by simp [markVersion]]

/-! ## Addresses -/

theorem intercalate_cons (mark first : List Char) (rest : List (List Char)) :
    mark.intercalate (first :: rest) = first ++ rest.flatMap (mark ++ ·) := by
  induction rest generalizing first with
  | nil => simp [List.intercalate]
  | cons second rest ih =>
      rw [List.flatMap_cons, List.append_assoc, ← ih]
      simp [List.intercalate]

theorem writesBytes_octets {first second third fourth : Nat} (first_le : first ≤ 255)
    (second_le : second ≤ 255) (third_le : third ≤ 255) (fourth_le : fourth ≤ 255) :
    WritesBytes (Nat.toDigits 10 first ++ '.' :: Nat.toDigits 10 second ++
      '.' :: Nat.toDigits 10 third ++ '.' :: Nat.toDigits 10 fourth)
      [first, second, third, fourth] := by
  have spells := @spells_toDigits 10 (by decide) (by decide)
  refine ⟨rfl, [first, second, third, fourth].map (Nat.toDigits 10), ?_, ?_⟩
  · simp [List.intercalate]
  · simp [spells, first_le, second_le, third_le, fourth_le]

theorem yields_ipv4 : (ipv4 : Draw σ (List Char)).Yields fun text =>
    ∃ bytes, WritesBytes text bytes := by
  refine (Draw.yields_word .bits32).map fun word _ => ?_
  refine ⟨_, writesBytes_octets ?_ ?_ ?_ ?_⟩ <;> exact Nat.le_of_lt_succ (Nat.mod_lt _ (by decide))

theorem writesGroups_intercalate {groups : List Nat} (eight : groups.length = 8)
    (fit : ∀ group ∈ groups, group < 65536) :
    WritesGroups ([':'].intercalate (groups.map (Nat.toDigits 16))) groups := by
  refine ⟨eight, _, rfl, ?_⟩
  rw [List.forall₂_map_left_iff, List.forall₂_same]
  intro group mem
  refine ⟨List.length_pos_iff.mpr Nat.toDigits_ne_nil, ?_,
    spells_toDigits (by decide) (by decide) _⟩
  exact (Nat.length_toDigits_le_iff (by decide) (by decide)).mpr (fit group mem)

theorem readSixteenBytes_intercalate {groups : List Nat} (eight : groups.length = 8)
    (fit : ∀ group ∈ groups, group < 65536) :
    Net.readSixteenBytes ([':'].intercalate (groups.map (Nat.toDigits 16))) =
      some (groups, []) := by
  cases groups with
  | nil => cases eight
  | cons first rest =>
      rw [List.map_cons, intercalate_cons, List.flatMap_map]
      exact Net.readSixteenBytes_groups (Nat.succ.inj eight) fit

/-! ## Dates -/

theorem fixedWidth_two {n : Nat} (fits : n < 100) : FixedWidth 2 (padded 2 n).toList n :=
  fixedWidth_padded (by decide) fits

theorem writesDate_write {date : Date} (valid : date.IsValid) (positive : 0 ≤ date.year)
    (fits : date.year < 10000) : WritesDate date.write.toList date := by
  have month := valid.month
  have day := valid.day
  have short : Date.daysInMonth date.year date.month ≤ 31 := by
    unfold Date.daysInMonth
    split
    all_goals try split
    all_goals decide
  refine ⟨(padded 4 date.year.toNat).toList, (padded 2 date.month).toList,
    (padded 2 date.day).toList, ?_, positive, ?_, ?_, ?_⟩
  · simp [Date.write]
  · exact fixedWidth_padded (by decide) (by omega)
  · exact fixedWidth_two (by omega)
  · exact fixedWidth_two (by omega)

/-- The date of an instant that may be drawn has a year of four digits. -/
theorem writesDate_ofDay {seconds : Int} (first : firstInstant ≤ seconds)
    (last : seconds ≤ lastInstant) :
    WritesDate (Date.ofDay (seconds / 86400)).write.toList (Date.ofDay (seconds / 86400)) := by
  rcases Date.ofDay_spec (seconds / 86400) with ⟨valid, number⟩
  have bounds := Date.dayNumber_bounds valid
  rw [number] at bounds
  simp only [firstInstant] at first
  simp only [lastInstant] at last
  have epoch : Date.daysBeforeYear 1970 = 719162 := rfl
  apply writesDate_write valid
  · by_contra negative
    have le := Date.daysBeforeYear_mono
      (show (Date.ofDay (seconds / 86400)).year + 1 ≤ 1970 by omega)
    omega
  · by_contra beyond
    have le := Date.daysBeforeYear_mono (show 10000 ≤ (Date.ofDay (seconds / 86400)).year by omega)
    have far : Date.daysBeforeYear 10000 = 3652059 := rfl
    omega

theorem writesInstant_write {seconds : Int} (first : firstInstant ≤ seconds)
    (last : seconds ≤ lastInstant) : WritesInstant (writeInstant seconds).toList seconds := by
  rcases Date.ofDay_spec (seconds / 86400) with ⟨valid, number⟩
  let time := (seconds % 86400).toNat
  have time_lt : time < 86400 := by omega
  refine ⟨(Date.ofDay (seconds / 86400)).write.toList, Date.ofDay (seconds / 86400),
    (padded 2 (time / 3600)).toList, time / 3600, (padded 2 (time / 60 % 60)).toList,
    time / 60 % 60, (padded 2 (time % 60)).toList, time % 60, ?_, writesDate_ofDay first last,
    valid, fixedWidth_two ?_, ?_, fixedWidth_two ?_, ?_, fixedWidth_two ?_, ?_, ?_⟩
  · simp [writeInstant, time]
  all_goals omega

/-! ## Formats -/

omit [WordSource σ] in
theorem fst_run_map {α β : Type} (f : α → β) (draw : Draw σ α) (source : σ) :
    ((f <$> draw).run source).1 = f (draw.run source).1 := rfl

omit [WordSource σ] in
theorem exists_written {draw : Draw σ (List Char)} {p : List Char → Prop} (yields : draw.Yields p)
    (source : σ) : ∃ text,
      (((fun chars => some (String.ofList chars)) <$> draw).run source).1 = some text ∧
        p text.toList := by
  refine ⟨String.ofList (draw.run source).1, fst_run_map _ draw source, ?_⟩
  rw [String.toList_ofList]
  exact yields source

theorem run_ipv6 (source : σ) : (ipv6.run source).1 = [':'].intercalate
    ((((Draw.times 8 (Draw.word .bits32)).run source).1.map (· % 65536)).map
      (Nat.toDigits 16)) := by
  rw [ipv6, fst_run_map, List.map_map]
  rfl

/-- Whatever the words and the endings of host names are, every format with a form of its own has a
value in its grammar. The groups of a long address, the day and the instant are the drawn ones. -/
theorem formatted_canonical (vocabulary : Vocabulary) (source : σ) :
    let value := fun format : TextFormat => ((formatted vocabulary format).run source).1
    let groups := ((Draw.times 8 (Draw.word .bits32)).run source).1.map (· % 65536)
    let seconds := (instant.run source).1
    (∃ text, value .hostname = some text ∧ IsHostname text.toList) ∧
    (∃ text, value .email = some text ∧ IsEmail text.toList) ∧
    (∃ text, value .uri = some text ∧ IsUri text.toList) ∧
    (∃ text, value .uuid = some text ∧ IsIdentifier text.toList) ∧
    (∃ text, value .ipv4 = some text ∧ ∃ bytes, WritesBytes text.toList bytes) ∧
    (∃ text, value .ipv6 = some text ∧ WritesGroups text.toList groups ∧
      Net.readSixteenBytes text.toList = some (groups, [])) ∧
    (Date.dayNumber ⟨2000, 1, 1⟩ * 86400 ≤ seconds ∧
      seconds ≤ Date.dayNumber ⟨2030, 1, 1⟩ * 86400) ∧
    (∃ text date, value .date = some text ∧ WritesDate text.toList date ∧ date.IsValid ∧
      date.dayNumber = seconds / 86400) ∧
    (∃ text, value .dateTime = some text ∧ WritesInstant text.toList seconds) ∧
    ∀ raw, value (.other raw) = none := by
  intro value groups seconds
  have bounds : firstInstant ≤ seconds ∧ seconds ≤ lastInstant :=
    Draw.yields_intBetween (by decide) (by decide) (by decide) source
  have words := Draw.yields_times (Draw.yields_word (σ := σ) .bits32) 8 source
  have eight : groups.length = 8 := by rw [List.length_map, words.1]
  have fit : ∀ group ∈ groups, group < 65536 := by
    intro group mem
    rcases List.mem_map.mp mem with ⟨word, _, rfl⟩
    exact Nat.mod_lt _ (by decide)
  have from_first : Date.dayNumber ⟨2000, 1, 1⟩ * 86400 = firstInstant := by decide
  have to_last : Date.dayNumber ⟨2030, 1, 1⟩ * 86400 = lastInstant := by decide
  rw [from_first, to_last]
  have ipv6_eq : value .ipv6 = some (String.ofList (ipv6.run source).1) :=
    fst_run_map _ ipv6 source
  have date_eq : value .date = some (Date.ofDay (seconds / 86400)).write :=
    fst_run_map _ instant source
  have instant_eq : value .dateTime = some (writeInstant seconds) := fst_run_map _ instant source
  have day := Date.ofDay_spec (seconds / 86400)
  refine ⟨exists_written (yields_hostname vocabulary) source,
    exists_written (yields_email vocabulary) source, exists_written (yields_uri vocabulary) source,
    exists_written yields_uuid source, exists_written yields_ipv4 source, ⟨_, ipv6_eq, ?_⟩, bounds,
    ⟨_, _, date_eq, writesDate_ofDay bounds.1 bounds.2, day.1, day.2⟩,
    ⟨_, instant_eq, writesInstant_write bounds.1 bounds.2⟩, fun raw => rfl⟩
  rw [String.toList_ofList, run_ipv6]
  exact ⟨writesGroups_intercalate eight fit, readSixteenBytes_intercalate eight fit⟩

end ApiStub.Mock
