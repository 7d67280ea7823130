import SnippetSandbox.Proofs.Config.Settings

/-!
# The members of a stored configuration

A configuration that is stored as an object is what its members say together.  Their order
has no part in it, nor have the gaps between their parts or the members under other keys: a
member fills in its own setting, and no two members have the same one.
-/

namespace SnippetSandbox.Config

open FileSystem Json

/-- A member of an object, as it is written. -/
abbrev Member := Quoted × Value

/-! ## What the members say together -/

/-- The configuration that members make of one, when these settings were given before. -/
def gathered? (given : List Field) (config : Config) : List Member → Option Config
  | [] => some config
  | (key, value) :: others =>
      (decoded? key.written).bind fun name =>
        match Field.ofKey? (String.ofList name) with
        | none => gathered? given config others
        | some field =>
            if field ∈ given then none
            else (said? field value).bind fun source =>
              gathered? (field :: given) (source.filled config field) others

section

variable {tokens : List (List Char)} {text : List Char}

theorem readColon_spaced (spaced : Spaced ([':'] :: tokens) text) :
    ∃ rest, Spaced tokens rest ∧ readColon text = .ok rest := by
  obtain ⟨rest, spaced, faced⟩ := spaced.faced rfl
  exact ⟨rest, spaced, by rw [readColon, faced]; rfl⟩

/-- Read the member whose key has been read, and then the others. -/
def readMember (fuel : Nat) (given : List Field) (config : Config) (name rest : List Char) :
    Except Halt (Config × List Char) :=
  match Field.ofKey? (String.ofList name) with
  | some field =>
      if field ∈ given then .error (duplicate field rest)
      else
        (readColon rest).bind fun value =>
          (readField field config value).bind fun found =>
            readMembers fuel false (field :: given) found.1 found.2
  | none =>
      (readColon rest).bind fun value =>
        (skipValue value).bind fun remaining => readMembers fuel false given config remaining

theorem readMembers_eq_readMember {fuel : Nat} {first : Bool} {given : List Field}
    {config : Config} {name rest : List Char}
    (next : nextMember first text = .ok (.key name rest)) :
    readMembers (fuel + 1) first given config text = readMember fuel given config name rest := by
  rw [readMembers.eq_def, next, readMember]
  dsimp only
  cases Field.ofKey? (String.ofList name) with
  | none =>
      dsimp only
      cases colon : readColon rest with
      | error halt => rfl
      | ok value =>
          cases skipped : skipValue value <;> simp only [Except.bind, skipped]
  | some field =>
      dsimp only
      split
      · rfl
      · cases colon : readColon rest with
        | error halt => rfl
        | ok value =>
            cases read : readField field config value <;> simp only [Except.bind, read]

theorem readMembers_halted {fuel : Nat} {first : Bool} {given : List Field} {config : Config}
    {halt : Halt} (next : nextMember first text = .error halt) :
    readMembers fuel first given config text = .error halt := by
  rw [readMembers.eq_def, next]

theorem readMembers_closed {fuel : Nat} {first : Bool} {given : List Field} {config : Config}
    {rest : List Char} (next : nextMember first text = .ok (.closed rest)) :
    readMembers fuel first given config text = .ok (config, rest) := by
  rw [readMembers.eq_def, next]

/-- The members behind the first one, up to and with the closing brace. -/
def furtherTokens (members : List Member) (tokens : List (List Char)) : List (List Char) :=
  behindCommas (members.map memberTokens) ++ (['\x7d'] :: tokens)

theorem endsValue_furtherTokens (members : List Member) (tokens : List (List Char)) :
    EndsValue (furtherTokens members tokens) :=
  endsValue_behindCommas .object _ tokens

theorem keyBehindQuote_settles {key : Quoted} {rest : List Char}
    (read : Settles (decoded? key.written) tokens (readText rest)) :
    match decoded? key.written with
    | some name => ∃ behind, Spaced tokens behind ∧ keyBehindQuote rest = .ok (.key name behind)
    | none => ∃ halt, keyBehindQuote rest = .error halt := by
  cases decoded : decoded? key.written with
  | some name =>
      rw [decoded] at read
      obtain ⟨behind, spaced, found⟩ := read
      exact ⟨behind, spaced, by rw [keyBehindQuote, found]; rfl⟩
  | none =>
      rw [decoded] at read
      obtain ⟨halt, halted⟩ := read
      exact ⟨halt, by rw [keyBehindQuote, halted]; rfl⟩

theorem nextMember_quote {rest : List Char} (faced : skipGap text = '"' :: rest) :
    nextMember true text = keyBehindQuote rest := by
  rw [nextMember, faced]
  rfl

theorem nextMember_comma {rest behind : List Char} (comma : skipGap text = ',' :: behind)
    (faced : skipGap behind = '"' :: rest) : nextMember false text = keyBehindQuote rest := by
  simp [nextMember, comma, faced]

theorem nextMember_closing (first : Bool) (spaced : Spaced (['\x7d'] :: tokens) text) :
    ∃ rest, Spaced tokens rest ∧ nextMember first text = .ok (.closed rest) := by
  obtain ⟨rest, spaced, faced⟩ := spaced.faced rfl
  exact ⟨rest, spaced, by rw [nextMember, faced]; rfl⟩

/-- A member whose key has been read is taken together with what the others say. -/
theorem readMember_settles {fuel : Nat} {given : List Field} {config : Config}
    {value : Value} {others : List Member} {name : List Char}
    (spaced : Spaced ([':'] :: (value.tokens ++ furtherTokens others tokens)) text)
    (goesOn : ∀ given config rest, Spaced (furtherTokens others tokens) rest →
      Settles (gathered? given config others) tokens
        (readMembers fuel false given config rest)) :
    Settles
      (match Field.ofKey? (String.ofList name) with
        | none => gathered? given config others
        | some field =>
            if field ∈ given then none
            else (said? field value).bind fun source =>
              gathered? (field :: given) (source.filled config field) others)
      tokens (readMember fuel given config name text) := by
  obtain ⟨behind, spaced, colon⟩ := readColon_spaced spaced
  have ends := endsValue_furtherTokens others tokens
  rw [readMember, colon]
  cases Field.ofKey? (String.ofList name) with
  | none =>
      obtain ⟨rest, spaced, skipped⟩ := skipValue_spaced ends spaced
      change Settles _ _ ((skipValue behind).bind _)
      rw [skipped]
      exact goesOn given config rest spaced
  | some field =>
      dsimp only
      split
      · exact ⟨_, rfl⟩
      · have read := (readField_spaced field config ends spaced).bind fun changed rest spaced =>
          goesOn (field :: given) changed rest spaced
        rw [Option.bind_map] at read
        exact read

/-- The next member and those behind it are read as what they say together. -/
theorem readMembers_settles {fuel : Nat} {first : Bool} {given : List Field} {config : Config}
    {key : Quoted} {value : Value} {others : List Member} {rest : List Char}
    (next : nextMember first text = keyBehindQuote rest)
    (read : Settles (decoded? key.written)
      ([':'] :: (value.tokens ++ furtherTokens others tokens)) (readText rest))
    (goesOn : ∀ given config rest, Spaced (furtherTokens others tokens) rest →
      Settles (gathered? given config others) tokens
        (readMembers fuel false given config rest)) :
    Settles (gathered? given config ((key, value) :: others)) tokens
      (readMembers (fuel + 1) first given config text) := by
  have found := keyBehindQuote_settles read
  rw [gathered?]
  cases decoded : decoded? key.written with
  | none =>
      rw [decoded] at found
      obtain ⟨halt, halted⟩ := found
      exact ⟨halt, readMembers_halted (next.trans halted)⟩
  | some name =>
      rw [decoded] at found
      obtain ⟨behind, spaced, found⟩ := found
      rw [readMembers_eq_readMember (next.trans found)]
      exact readMember_settles spaced goesOn

theorem readMembers_further {fuel : Nat} {members : List Member}
    (enough : members.length ≤ fuel) (given : List Field) (config : Config)
    (spaced : Spaced (furtherTokens members tokens) text) :
    Settles (gathered? given config members) tokens
      (readMembers fuel false given config text) := by
  induction members generalizing fuel given config text with
  | nil =>
      obtain ⟨rest, spaced, closed⟩ := nextMember_closing false spaced
      exact ⟨rest, spaced, readMembers_closed closed⟩
  | cons member members ih =>
      obtain ⟨key, value⟩ := member
      obtain ⟨fuel, rfl⟩ := Nat.exists_eq_add_of_le' (Nat.le_trans (Nat.le_add_left 1 _) enough)
      rw [furtherTokens, List.map_cons, behindCommas, List.flatMap_cons, ← behindCommas,
        List.cons_append, List.cons_append, List.append_assoc] at spaced
      obtain ⟨behind, spaced, comma⟩ := spaced.faced rfl
      obtain ⟨rest, faced, read⟩ := readText_token spaced
      exact readMembers_settles (nextMember_comma comma faced) read fun given config rest =>
        ih (Nat.le_of_succ_le_succ enough) given config

theorem readMembers_spaced {fuel : Nat} {members : List Member}
    (enough : members.length ≤ fuel) (given : List Field) (config : Config)
    (spaced : Spaced (separated (members.map memberTokens) ++ (['\x7d'] :: tokens)) text) :
    Settles (gathered? given config members) tokens
      (readMembers fuel true given config text) := by
  cases members with
  | nil =>
      obtain ⟨rest, spaced, closed⟩ := nextMember_closing true spaced
      exact ⟨rest, spaced, readMembers_closed closed⟩
  | cons member members =>
      obtain ⟨key, value⟩ := member
      obtain ⟨fuel, rfl⟩ := Nat.exists_eq_add_of_le' (Nat.le_trans (Nat.le_add_left 1 _) enough)
      rw [List.map_cons, separated, List.append_assoc] at spaced
      obtain ⟨rest, faced, read⟩ := readText_token spaced
      exact readMembers_settles (nextMember_quote faced) read fun given config rest =>
        readMembers_further (Nat.le_of_succ_le_succ enough) given config

theorem length_le_of_spaced (spaced : Spaced tokens text) :
    tokens.flatten.length ≤ text.length := by
  induction spaced with
  | nil => exact Nat.zero_le _
  | cons _ _ ih =>
      simp only [List.flatten_cons, List.length_append]
      omega

theorem length_le_behindCommas (items : List (List (List Char))) :
    items.length ≤ (behindCommas items).flatten.length := by
  induction items with
  | nil => exact Nat.zero_le _
  | cons item items ih =>
      simp only [behindCommas, List.flatMap_cons, List.flatten_append, List.length_append,
        List.flatten_cons, List.length_cons] at ih ⊢
      omega

theorem length_le_members (members : List Member) :
    members.length ≤ (separated (members.map memberTokens)).flatten.length := by
  cases members with
  | nil => exact Nat.zero_le _
  | cons member members =>
      have others := length_le_behindCommas (members.map memberTokens)
      rw [List.length_map] at others
      simp only [List.map_cons, separated, List.flatten_append, List.length_append,
        List.length_cons, memberTokens, List.flatten_cons, Quoted.token]
      omega

end

/-- A document that is read up to its end is what was read. -/
theorem parse_settles {said : Option Config} {text : String}
    (settles : Settles said [] (readConfig text.toList)) : (parse text).toOption = said := by
  cases said with
  | none =>
      obtain ⟨halt, halted⟩ := settles
      rw [parse, readDocument, halted]
      rfl
  | some found =>
      obtain ⟨behind, spaced, done⟩ := settles
      rw [parse, readDocument, done]
      simp only [spaced.skipGap_nil]
      rfl

/-- An object is read as the configuration that its members say together, whatever gaps there
are between its parts. -/
theorem parse_spaced {members : List Member} {text : String}
    (spaced : Spaced (Value.object members).tokens text.toList) :
    (parse text).toOption = gathered? [] standard members := by
  rw [tokens_object] at spaced
  obtain ⟨rest, spaced, faced⟩ := spaced.faced rfl
  have enough : members.length ≤ rest.length := by
    have room := length_le_of_spaced spaced
    have all := length_le_members members
    rw [List.flatten_append, List.length_append] at room
    omega
  have config : readConfig text.toList = readMembers rest.length true [] standard rest := by
    rw [readConfig, faced]
    rfl
  exact parse_settles (config ▸ readMembers_spaced enough [] standard spaced)

/-! ## Order and further members -/

/-- What a member says about a setting; no setting if its key is no setting's. -/
def reading? (member : Member) : Option (Option (Field × Config)) :=
  (decoded? member.1.written).bind fun name =>
    match Field.ofKey? (String.ofList name) with
    | none => some none
    | some field => (said? field member.2).map fun source => some (field, source)

/-- The setting that a member is given under, with a configuration that has its value. -/
def setting? (member : Member) : Option (Field × Config) :=
  (reading? member).join

/-- A configuration with this setting filled in. -/
def fill (config : Config) (setting : Field × Config) : Config :=
  setting.2.filled config setting.1

/-- All members can be read, no setting is given twice or was given before, and filled in one
after the other they make this configuration. -/
structure IsGathered (given : List Field) (config : Config) (members : List Member)
    (result : Config) : Prop where
  readable : ∀ member ∈ members, (reading? member).isSome
  distinct : ((members.filterMap setting?).map Prod.fst).Nodup
  fresh : ∀ setting ∈ members.filterMap setting?, setting.1 ∉ given
  filled : (members.filterMap setting?).foldl fill config = result

theorem gathered?_cons (given : List Field) (config : Config) (member : Member)
    (members : List Member) :
    gathered? given config (member :: members) =
      (reading? member).bind fun said =>
        match said with
        | none => gathered? given config members
        | some setting =>
            if setting.1 ∈ given then none
            else gathered? (setting.1 :: given) (fill config setting) members := by
  obtain ⟨key, value⟩ := member
  rw [gathered?, reading?]
  cases decoded? key.written with
  | none => rfl
  | some name =>
      simp only [Option.bind_some]
      cases Field.ofKey? (String.ofList name) with
      | none => rfl
      | some field =>
          dsimp only
          cases said? field value with
          | none => split <;> rfl
          | some source => rfl

theorem setting?_of_reading {member : Member} {said : Option (Field × Config)}
    (read : reading? member = some said) : setting? member = said := by
  rw [setting?, read]
  rfl

theorem isGathered_ignored {given : List Field} {config result : Config} {member : Member}
    {members : List Member} (ignored : reading? member = some none) :
    IsGathered given config (member :: members) result ↔
      IsGathered given config members result := by
  have settings : (member :: members).filterMap setting? = members.filterMap setting? :=
    List.filterMap_cons_none (setting?_of_reading ignored)
  constructor
  · rintro ⟨readable, distinct, fresh, filled⟩
    rw [settings] at distinct fresh filled
    exact ⟨fun other isMember => readable other (List.mem_cons_of_mem _ isMember), distinct,
      fresh, filled⟩
  · rintro ⟨readable, distinct, fresh, filled⟩
    rw [← settings] at distinct fresh filled
    exact ⟨List.forall_mem_cons.mpr ⟨by rw [ignored]; rfl, readable⟩, distinct, fresh, filled⟩

theorem isGathered_setting {given : List Field} {config result : Config} {member : Member}
    {members : List Member} {setting : Field × Config}
    (read : reading? member = some (some setting)) :
    IsGathered given config (member :: members) result ↔
      setting.1 ∉ given ∧
        IsGathered (setting.1 :: given) (fill config setting) members result := by
  have settings : (member :: members).filterMap setting? =
      setting :: members.filterMap setting? :=
    List.filterMap_cons_some (setting?_of_reading read)
  constructor
  · rintro ⟨readable, distinct, fresh, filled⟩
    rw [settings] at distinct fresh filled
    obtain ⟨once, distinct⟩ := List.nodup_cons.mp distinct
    obtain ⟨isNew, fresh⟩ := List.forall_mem_cons.mp fresh
    refine ⟨isNew, fun other isMember => readable other (List.mem_cons_of_mem _ isMember),
      distinct, fun other isLater before => ?_, filled⟩
    rcases List.mem_cons.mp before with same | before
    · exact once (same ▸ List.mem_map_of_mem isLater)
    · exact fresh other isLater before
  · rintro ⟨isNew, readable, distinct, fresh, filled⟩
    refine ⟨List.forall_mem_cons.mpr ⟨by rw [read]; rfl, readable⟩, ?_, ?_, ?_⟩
    · rw [settings]
      refine List.nodup_cons.mpr ⟨fun again => ?_, distinct⟩
      obtain ⟨other, isLater, same⟩ := List.mem_map.mp again
      exact fresh other isLater (List.mem_cons.mpr (.inl same))
    · rw [settings]
      exact List.forall_mem_cons.mpr
        ⟨isNew, fun other isLater before => fresh other isLater (List.mem_cons_of_mem _ before)⟩
    · rw [settings]
      exact filled

/-- What members say together, said of all of them at once. -/
theorem gathered?_iff {given : List Field} {config result : Config} {members : List Member} :
    gathered? given config members = some result ↔ IsGathered given config members result := by
  induction members generalizing given config with
  | nil =>
      rw [gathered?]
      constructor
      · rintro ⟨⟩
        exact ⟨List.forall_mem_nil _, List.nodup_nil, List.forall_mem_nil _, rfl⟩
      · intro gathered
        rw [← gathered.filled]
        rfl
  | cons member members ih =>
      rw [gathered?_cons]
      cases read : reading? member with
      | none =>
          refine ⟨nofun, fun gathered => ?_⟩
          have isRead := gathered.readable member (List.mem_cons_self ..)
          rw [read] at isRead
          cases isRead
      | some said =>
          cases said with
          | none => exact ih.trans (isGathered_ignored read).symm
          | some setting =>
              rw [isGathered_setting read, ← ih, Option.bind_some]
              dsimp only
              split
              next before => exact ⟨nofun, fun gathered => absurd before gathered.1⟩
              next isNew => exact ⟨fun gathered => ⟨isNew, gathered⟩, fun gathered => gathered.2⟩

/-! ### Settings do not get in each other's way -/

theorem filled_comm {field other : Field} (different : field ≠ other)
    (source further config : Config) :
    source.filled (further.filled config other) field =
      further.filled (source.filled config field) other := by
  cases field <;> cases other <;> first | rfl | exact absurd rfl different

theorem filled_filled (source further config : Config) (field : Field) :
    source.filled (further.filled config field) field = source.filled config field := by
  cases field <;> rfl

theorem standard_filled (field : Field) : standard.filled standard field = standard := by
  cases field <;> rfl

/-- Settings that differ from each other may be filled in in any order. -/
theorem foldl_fill_perm {settings others : List (Field × Config)}
    (distinct : (settings.map Prod.fst).Nodup) (perm : settings.Perm others) (config : Config) :
    settings.foldl fill config = others.foldl fill config := by
  refine perm.foldl_eq' ?_ config
  intro setting isSetting other isOther between
  by_cases same : setting.1 = other.1
  · rw [List.inj_on_of_nodup_map distinct isSetting isOther same]
  · exact (filled_comm same _ _ _).symm

theorem filled_foldl_fill {settings : List (Field × Config)} {field : Field}
    (absent : field ∉ settings.map Prod.fst) (config : Config) :
    standard.filled (settings.foldl fill config) field =
      settings.foldl fill (standard.filled config field) := by
  induction settings generalizing config with
  | nil => rfl
  | cons setting settings ih =>
      rw [List.map_cons, List.mem_cons, not_or] at absent
      rw [List.foldl_cons, List.foldl_cons, ih absent.2, fill, fill, filled_comm absent.1]

/-- The key of the member is that of this setting. -/
def IsUnder (field : Field) (member : Member) : Prop :=
  ∃ name, decoded? member.1.written = some name ∧
    Field.ofKey? (String.ofList name) = some field

/-- The key of the member is that of no setting. -/
def IsUnknown (member : Member) : Prop :=
  ∃ name, decoded? member.1.written = some name ∧ Field.ofKey? (String.ofList name) = none

theorem IsUnknown.reading {member : Member} (unknown : IsUnknown member) :
    reading? member = some none := by
  obtain ⟨name, decoded, noField⟩ := unknown
  rw [reading?, decoded, Option.bind_some, noField]

theorem IsUnder.setting {field : Field} {member : Member} (isUnder : IsUnder field member)
    (isRead : (reading? member).isSome) :
    ∃ source, reading? member = some (some (field, source)) := by
  obtain ⟨name, decoded, isField⟩ := isUnder
  rw [reading?, decoded, Option.bind_some, isField] at isRead ⊢
  cases said : said? field member.2 with
  | none => simp [said] at isRead
  | some source => exact ⟨source, by simp only [said, Option.map_some]⟩

section

variable {members others : List Member} {config : Config}

theorem IsGathered.perm (gathered : IsGathered [] standard members config)
    (perm : members.Perm others) : IsGathered [] standard others config where
  readable member isMember := gathered.readable member (perm.mem_iff.mpr isMember)
  distinct := ((perm.filterMap setting?).map Prod.fst).nodup_iff.mp gathered.distinct
  fresh _ _ := List.not_mem_nil
  filled := by
    rw [← gathered.filled]
    exact (foldl_fill_perm gathered.distinct (perm.filterMap setting?) standard).symm

theorem IsGathered.append (gathered : IsGathered [] standard members config)
    {unknown : List Member} (areUnknown : ∀ member ∈ unknown, IsUnknown member) :
    IsGathered [] standard (members ++ unknown) config := by
  have same : (members ++ unknown).filterMap setting? = members.filterMap setting? := by
    have none : unknown.filterMap setting? = [] := List.filterMap_eq_nil_iff.mpr
      fun member isMember => setting?_of_reading (areUnknown member isMember).reading
    rw [List.filterMap_append, none, List.append_nil]
  refine ⟨fun member isMember => ?_, ?_, fun _ _ => List.not_mem_nil, ?_⟩
  · rcases List.mem_append.mp isMember with isKnown | isUnknown
    · exact gathered.readable member isKnown
    · rw [(areUnknown member isUnknown).reading]
      rfl
  · rw [same]
    exact gathered.distinct
  · rw [same]
    exact gathered.filled

/-- Without the member under it, a setting has its default, and the others stay as they are. -/
theorem IsGathered.tail {member : Member} {field : Field} (isUnder : IsUnder field member)
    (gathered : IsGathered [] standard (member :: others) config) :
    IsGathered [] standard others (standard.filled config field) := by
  obtain ⟨source, read⟩ := isUnder.setting (gathered.readable member (List.mem_cons_self ..))
  obtain ⟨-, rest⟩ := (isGathered_setting read).mp gathered
  have absent : field ∉ (others.filterMap setting?).map Prod.fst := by
    intro present
    obtain ⟨setting, isSetting, rfl⟩ := List.mem_map.mp present
    exact rest.fresh setting isSetting (List.mem_cons_self ..)
  refine ⟨rest.readable, rest.distinct, fun _ _ => List.not_mem_nil, ?_⟩
  rw [← rest.filled, filled_foldl_fill absent, fill, filled_filled, standard_filled]

theorem not_isGathered_of_isUnder {field : Field} {member other : Member}
    (isUnder : IsUnder field member) (again : IsUnder field other) (isMember : other ∈ others) :
    ¬ IsGathered [] standard (member :: others) config := by
  intro gathered
  obtain ⟨source, read⟩ := isUnder.setting (gathered.readable member (List.mem_cons_self ..))
  obtain ⟨-, rest⟩ := (isGathered_setting read).mp gathered
  obtain ⟨further, read⟩ := again.setting (rest.readable other isMember)
  have isSetting : (field, further) ∈ others.filterMap setting? :=
    List.mem_filterMap.mpr ⟨other, isMember, setting?_of_reading read⟩
  exact rest.fresh _ isSetting (List.mem_cons_self ..)

/-! ## Loading -/

/-- The file at the path is an object with these members, in this order, with any gaps between
their parts. -/
def Holds (members : List Member) (path : String) (disk : Disk) : Prop :=
  ∃ text, (FileSystem.readText path disk).1 = .ok text ∧
    Spaced (Value.object members).tokens text.toList

variable {path : String} {disk : Disk}

theorem load_text {text : String} (read : (FileSystem.readText path disk).1 = .ok text) :
    (load path disk).1 = ofFile path (.ok text) := by
  rw [load, ← Prod.eta (FileSystem.readText path disk), read]

theorem load_text_iff {text : String} (read : (FileSystem.readText path disk).1 = .ok text) :
    (load path disk).1 = .ok config ↔ (parse text).toOption = some config := by
  rw [load_text read, ofFile]
  cases parse text <;> simp [Except.toOption]

theorem load_text_error {text : String} (read : (FileSystem.readText path disk).1 = .ok text)
    (none : (parse text).toOption = none) :
    ∃ problem position,
      (load path disk).1 = .error (.config (.malformed problem position)) := by
  rw [load_text read, ofFile]
  cases parsed : parse text with
  | ok found => simp [parsed, Except.toOption] at none
  | error halt => exact ⟨halt.1, halt.2, rfl⟩

theorem load_iff (holds : Holds members path disk) :
    (load path disk).1 = .ok config ↔ IsGathered [] standard members config := by
  obtain ⟨text, read, spaced⟩ := holds
  rw [load_text_iff read, parse_spaced spaced, gathered?_iff]

theorem load_error (holds : Holds members path disk)
    (none : ∀ config, ¬ IsGathered [] standard members config) :
    ∃ problem position,
      (load path disk).1 = .error (.config (.malformed problem position)) := by
  obtain ⟨text, read, spaced⟩ := holds
  refine load_text_error read ?_
  rw [parse_spaced spaced, Option.eq_none_iff_forall_ne_some]
  exact fun config said => none config (gathered?_iff.mp said)

end

/-- What becomes of a configuration when the members it is loaded from are stored in another
way, in any file on any disk. -/
structure IsLoadedAlike (members : List Member) (config : Config) : Prop where
  /-- In any order, with any gaps, and with any further members under keys of no setting, the
  same configuration is loaded. -/
  rearranged : ∀ {unknown others : List Member} {path : String} {disk : Disk},
    (∀ member ∈ unknown, IsUnknown member) → (members ++ unknown).Perm others →
    Holds others path disk → (load path disk).1 = .ok config
  /-- Without the member under a setting, only that setting is another one, its default. -/
  deleted : ∀ {member : Member} {others : List Member} {field : Field} {path : String}
    {disk : Disk}, IsUnder field member → members.Perm (member :: others) →
    Holds others path disk → (load path disk).1 = .ok (standard.filled config field)
  /-- With a second member under a setting, nothing is loaded. -/
  repeated : ∀ {member again : Member} {others : List Member} {field : Field} {path : String}
    {disk : Disk}, member ∈ members → IsUnder field member → IsUnder field again →
    (again :: members).Perm others → Holds others path disk →
    ∃ problem position, (load path disk).1 = .error (.config (.malformed problem position))

/-- What is loaded from an object is a matter of its members under the keys of settings. -/
theorem isLoadedAlike_of_load {members : List Member} {config : Config} {path : String}
    {disk : Disk} (holds : Holds members path disk) (loaded : (load path disk).1 = .ok config) :
    IsLoadedAlike members config where
  rearranged areUnknown perm holdsOthers :=
    (load_iff holdsOthers).mpr ((((load_iff holds).mp loaded).append areUnknown).perm perm)
  deleted isUnder perm holdsOthers :=
    (load_iff holdsOthers).mpr ((((load_iff holds).mp loaded).perm perm).tail isUnder)
  repeated isMember isUnder again perm holdsOthers :=
    load_error holdsOthers fun _ gathered =>
      not_isGathered_of_isUnder again isUnder isMember (gathered.perm perm.symm)

/-- The key of a setting, as characters that stand for themselves. -/
def intelKey : List Char :=
  ['i', 'n', 't', 'e', 'l', '_', 's', 'y', 'n', 't', 'a', 'x']

theorem plain_intelKey :
    ∀ character ∈ intelKey, 0x20 ≤ character.toNat ∧ character ≠ '"' ∧ character ≠ '\\' := by
  simp [intelKey]

/-- A member that turns that setting on. -/
def intelOn : Member :=
  (⟨intelKey, isQuoted_of_plain plain_intelKey⟩, .word .yes)

/-- An object of that one member, without any gaps. -/
def intelText : String :=
  String.ofList (Value.object [intelOn]).tokens.flatten

/-- A disk with that text in a file of its root directory. -/
def intelFile : Disk :=
  { tree := ⟨[("config.json", .file 0 intelText.toUTF8 false)], 1⟩, current := [] }

theorem holds_intelOn : Holds [intelOn] "/config.json" intelFile := by
  have found : intelFile.entryAt? "/config.json" = .ok (.file 0 intelText.toUTF8 false) := by
    rw [intelFile]
    generalize intelText.toUTF8 = bytes
    cbv
  refine ⟨intelText, readText_file found rfl, ?_⟩
  rw [intelText, String.toList_ofList]
  exact spaced_flatten _

theorem load_intelOn :
    (load "/config.json" intelFile).1 = .ok { intelSyntax := true } := by
  refine (load_iff holds_intelOn).mpr (gathered?_iff.mp ?_)
  have key : decoded? intelOn.1.written = some intelKey := decoded?_plain plain_intelKey
  have isField : Field.ofKey? (String.ofList intelKey) = some .intelSyntax := by decide
  have read : reading? intelOn = some (some (.intelSyntax, { intelSyntax := true })) := by
    rw [reading?, key, Option.bind_some, isField]
    rfl
  rw [gathered?_cons, read]
  rfl

/-- What is loaded from an object of one member is loaded from every object that says the same. -/
theorem isLoadedAlike_intelOn :
    (Holds [intelOn] "/config.json" intelFile ∧
      (load "/config.json" intelFile).1 = .ok { intelSyntax := true }) ∧
      IsLoadedAlike [intelOn] { intelSyntax := true } :=
  ⟨⟨holds_intelOn, load_intelOn⟩, isLoadedAlike_of_load holds_intelOn load_intelOn⟩

end SnippetSandbox.Config
