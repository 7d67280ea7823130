import SnippetSandbox.Proofs.Config.Members
import SnippetSandbox.Proofs.Config.Spelling

/-!
# The two shapes of a stored configuration

A configuration is stored as a list of values in a fixed order or as an object with a key for
each value.  Both are read value by value, and each value fills in its own setting.  So the
first values of a list say what the members under the first keys say in any order, and what
neither of them gives keeps its default.  A list may end early, but nothing may follow the last
of its values, whatever it is.
-/

namespace SnippetSandbox.Config

open FileSystem Json Text

/-! ## Reading a list -/

/-- The configuration that values make of one as those of the first of these settings. -/
def listed? (config : Config) : List Field → List Value → Option Config
  | _, [] => some config
  | [], _ :: _ => none
  | field :: fields, value :: values =>
      (said? field value).bind fun source => listed? (source.filled config field) fields values

section Reading

variable {tokens further : List (List Char)} {text : List Char} {config : Config}
variable {field : Field} {fields : List Field} {value : Value} {values : List Value}

theorem endsValue_furtherValues (ends : EndsValue further) (values : List Value) :
    EndsValue (behindCommas (values.map Value.tokens) ++ further) := by
  cases values with
  | nil => exact ends
  | cons value values => exact endsValue_cons (by decide) _

theorem readValues_element {first : Bool} {element : List Char}
    (next : nextElement first text = .ok (.element element)) :
    readValues first config text (field :: fields) =
      (readField field config element).bind fun found =>
        readValues false found.1 found.2 fields := by
  rw [readValues, next]
  dsimp only
  cases readField field config element <;> rfl

/-- A value fills in the setting that is due, and the others are read behind it. -/
theorem readValues_value {first : Bool} {element : List Char} {made : Config → Option Config}
    (next : nextElement first text = .ok (.element element)) (ends : EndsValue further)
    (spaced : Spaced (value.tokens ++ further) element)
    (goesOn : ∀ config rest, Spaced further rest →
      Settles (made config) tokens (readValues false config rest fields)) :
    Settles ((said? field value).bind fun source => made (source.filled config field)) tokens
      (readValues first config text (field :: fields)) := by
  have read := (readField_spaced field config ends spaced).bind goesOn
  rw [Option.bind_map] at read
  rw [readValues_element next]
  exact read

theorem readValues_closing (first : Bool) (fields : List Field)
    (spaced : Spaced ([']'] :: tokens) text) :
    Settles (some config) tokens (readValues first config text fields) := by
  cases fields with
  | nil =>
      obtain ⟨rest, spaced, faced⟩ := spaced.faced rfl
      exact ⟨rest, spaced, by rw [readValues, readListEnd, faced]; rfl⟩
  | cons field fields =>
      obtain ⟨rest, closed, spaced⟩ := nextElement_closing first spaced
      exact ⟨rest, spaced, by rw [readValues, closed]⟩

/-- When all settings have had their values, the list may not go on, whatever comes next. -/
theorem readValues_comma (first : Bool) (config : Config)
    (spaced : Spaced ([','] :: tokens) text) :
    ∃ halt, readValues first config text [] = .error halt := by
  obtain ⟨rest, -, faced⟩ := spaced.faced rfl
  rw [readValues, readListEnd, faced, List.nil_append]
  split
  next opened => cases opened
  next opened => cases opened
  next => split <;> exact ⟨_, rfl⟩
  next => exact ⟨_, rfl⟩

/-- Values behind commas are read as what they make of the configuration, and what stands
behind them is read with the settings that are left. -/
theorem readValues_behindCommas {made : Config → Option Config} (ends : EndsValue further)
    (spaced : Spaced (behindCommas (values.map Value.tokens) ++ further) text)
    (atEnd : ∀ config rest, Spaced further rest → Settles (made config) tokens
      (readValues false config rest (fields.drop values.length))) :
    Settles ((listed? config fields values).bind made) tokens
      (readValues false config text fields) := by
  -- Each value takes the setting that is due, so what is read behind all of them is read with
  -- the rest of the settings and whatever configuration there is by then.
  induction values generalizing fields config text with
  | nil =>
      rw [listed?, Option.bind_some]
      exact atEnd config text spaced
  | cons value values ih =>
      rw [List.map_cons, behindCommas, List.flatMap_cons, ← behindCommas, List.cons_append,
        List.cons_append, List.append_assoc] at spaced
      cases fields with
      | nil => exact readValues_comma false config spaced
      | cons field fields =>
          obtain ⟨element, next, spaced⟩ := nextElement_further spaced
          rw [listed?, Option.bind_assoc]
          exact readValues_value next (endsValue_furtherValues ends values) spaced
            fun config rest spaced => ih spaced atEnd

/-- The values of a list are read likewise from its opening bracket on. -/
theorem readValues_separated {made : Config → Option Config} (ends : EndsValue further)
    (some : values ≠ [])
    (spaced : Spaced (separated (values.map Value.tokens) ++ further) text)
    (atEnd : ∀ config rest, Spaced further rest → Settles (made config) tokens
      (readValues false config rest ((field :: fields).drop values.length))) :
    Settles ((listed? config (field :: fields) values).bind made) tokens
      (readValues true config text (field :: fields)) := by
  obtain ⟨value, values, rfl⟩ := List.exists_cons_of_ne_nil some
  rw [List.map_cons, separated, List.append_assoc] at spaced
  obtain ⟨element, next, spaced⟩ := nextElement_first spaced
  rw [listed?, Option.bind_assoc]
  exact readValues_value next (endsValue_furtherValues ends values) spaced
    fun config rest spaced => readValues_behindCommas ends spaced atEnd

theorem readConfig_list (spaced : Spaced (['['] :: tokens) text) :
    ∃ rest, Spaced tokens rest ∧ readConfig text = readValues true standard rest Field.all := by
  obtain ⟨rest, spaced, faced⟩ := spaced.faced rfl
  exact ⟨rest, spaced, by rw [readConfig, faced]; rfl⟩

end Reading

/-- A list is read as the configuration that its values make, whatever gaps there are between
its parts. -/
theorem parse_list {values : List Value} {text : String}
    (spaced : Spaced (Value.list values).tokens text.toList) :
    (parse text).toOption = listed? standard Field.all values := by
  rw [Value.tokens] at spaced
  obtain ⟨rest, spaced, read⟩ := readConfig_list spaced
  refine parse_settles ?_
  rw [read]
  by_cases none : values = []
  · subst none
    exact readValues_closing true _ spaced
  · have closes (config : Config) (rest : List Char) (spaced : Spaced [[']']] rest) :
        Settles (some config) [] (readValues false config rest (Field.all.drop values.length)) :=
      readValues_closing false _ spaced
    have settles := @readValues_separated [] [[']']] rest standard .sourceLocations
      (Field.all.drop 1) values some (endsValue_cons (by decide) _) none spaced closes
    rwa [Option.bind_fun_some] at settles

/-- A list with a value for every setting is not read if there is a comma behind them. -/
theorem parse_goesOn {values : List Value} {text : String} {tokens : List (List Char)}
    (all : values.length = Field.all.length)
    (spaced : Spaced (['['] :: (separated (values.map Value.tokens) ++ ([','] :: tokens)))
      text.toList) :
    (parse text).toOption = none := by
  obtain ⟨rest, spaced, read⟩ := readConfig_list spaced
  have some : values ≠ [] := by
    rintro rfl
    cases all
  have halts (config : Config) (rest : List Char) (spaced : Spaced ([','] :: tokens) rest) :
      Settles (none : Option Config) []
        (readValues false config rest (Field.all.drop values.length)) := by
    rw [all, List.drop_length]
    exact readValues_comma false config spaced
  refine parse_settles ?_
  rw [read]
  have settles := @readValues_separated [] ([','] :: tokens) rest standard .sourceLocations
    (Field.all.drop 1) values (fun _ => none) (endsValue_cons (by decide) _) some spaced halts
  rwa [Option.bind_fun_none] at settles

theorem listed?_eq_none {config : Config} {fields : List Field} {values : List Value}
    (more : fields.length < values.length) : listed? config fields values = none := by
  induction values generalizing config fields with
  | nil => cases more
  | cons value values ih =>
      cases fields with
      | nil => rfl
      | cons field fields =>
          rw [listed?, Option.bind_eq_none_iff]
          exact fun source _ => ih (Nat.lt_of_succ_lt_succ more)

/-! ## Values in a list and under keys -/

/-- Under the keys of the settings that are due, values say what they say in a list. -/
theorem gathered?_eq_listed? {keys : List Field} (left : List Field) {members : List Member}
    (under : List.Forall₂ IsUnder keys members) {given : List Field} (config : Config)
    (distinct : keys.Nodup) (fresh : ∀ field ∈ keys, field ∉ given) :
    gathered? given config members = listed? config (keys ++ left) (members.map Prod.snd) := by
  induction under generalizing given config with
  | nil => rw [List.map_nil, listed?, gathered?]
  | @cons field member keys members isUnder _ ih =>
      obtain ⟨key, value⟩ := member
      obtain ⟨name, decoded, isField⟩ := isUnder
      obtain ⟨once, distinct⟩ := List.nodup_cons.mp distinct
      obtain ⟨isNew, fresh⟩ := List.forall_mem_cons.mp fresh
      rw [gathered?, decoded, Option.bind_some, isField]
      dsimp only
      rw [if_neg isNew, List.map_cons, List.cons_append, listed?]
      congr 1
      funext source
      refine ih _ distinct fun other isOther => ?_
      rw [List.mem_cons, not_or]
      exact ⟨fun same => once (same ▸ isOther), fresh other isOther⟩

/-- The member has the key of this setting and a way to write it. -/
def IsMemberFor (config : Config) (field : Field) (member : Member) : Prop :=
  IsUnder field member ∧ States config field member.2

/-- A configuration that has these settings from another one, and all others by default. -/
def keeping (config : Config) (fields : List Field) : Config :=
  fields.foldl config.filled standard

theorem filled_of_filled (source standing config : Config) (field : Field) :
    (source.filled standing field).filled config field = source.filled config field := by
  cases field <;> rfl

theorem listed?_of_states {config : Config} {keys : List Field} (left : List Field)
    {values : List Value} (states : List.Forall₂ (States config) keys values) (start : Config) :
    listed? start (keys ++ left) values = some (keys.foldl config.filled start) := by
  induction states generalizing start with
  | nil => rw [listed?, List.foldl_nil]
  | cons isStated _ ih =>
      rw [List.cons_append, listed?, isStated, Option.bind_some, filled_of_filled, ih,
        List.foldl_cons]

/-! ## Loading either shape -/

/-- The file at the path is this value, with any gaps between its parts. -/
def IsStored (value : Value) (path : String) (disk : Disk) : Prop :=
  ∃ text, (FileSystem.readText path disk).1 = .ok text ∧ Spaced value.tokens text.toList

/-- The file at the path begins with a list of these values and a comma behind them, whatever
comes next. -/
def GoesOn (values : List Value) (path : String) (disk : Disk) : Prop :=
  ∃ text rest, (FileSystem.readText path disk).1 = .ok text ∧
    Spaced (['['] :: (separated (values.map Value.tokens) ++ [[','], rest])) text.toList

section Loading

variable {config : Config} {count : Nat} {values : List Value} {ordered members : List Member}
variable {path : String} {disk : Disk}

theorem load_list_iff (stored : IsStored (.list values) path disk) :
    (load path disk).1 = .ok config ↔ listed? standard Field.all values = some config := by
  obtain ⟨text, read, spaced⟩ := stored
  rw [load_text_iff read, parse_list spaced]

/-- In any order, the members under the first keys are loaded as the list of their values. -/
theorem load_object_iff (under : List.Forall₂ IsUnder (Field.all.take count) ordered)
    (perm : ordered.Perm members) (stored : IsStored (.object members) path disk) :
    (load path disk).1 = .ok config ↔
      listed? standard Field.all (ordered.map Prod.snd) = some config := by
  have distinct : (Field.all.take count).Nodup :=
    (by decide : Field.all.Nodup).sublist (List.take_sublist count _)
  have inOrder := gathered?_eq_listed? (Field.all.drop count) under standard distinct
    fun _ _ => List.not_mem_nil
  rw [List.take_append_drop] at inOrder
  rw [load_iff stored, ← inOrder, gathered?_iff]
  exact ⟨fun gathered => gathered.perm perm.symm, fun gathered => gathered.perm perm⟩

theorem listed?_keeping (states : List.Forall₂ (States config) (Field.all.take count) values) :
    listed? standard Field.all values = some (config.keeping (Field.all.take count)) := by
  have listed := listed?_of_states (Field.all.drop count) states standard
  rwa [List.take_append_drop] at listed

theorem forall₂_isMemberFor (members : List.Forall₂ (IsMemberFor config)
    (Field.all.take count) ordered) :
    List.Forall₂ IsUnder (Field.all.take count) ordered ∧
      List.Forall₂ (States config) (Field.all.take count) (ordered.map Prod.snd) :=
  ⟨members.imp fun _ _ isMember => isMember.1,
    List.forall₂_map_right_iff.mpr (members.imp fun _ _ isMember => isMember.2)⟩

/-- The member for a setting, with its key and its value as they are stored. -/
def memberOf (config : Config) (field : Field) : Member :=
  (quoted field.key, config.valueOf field)

theorem isMemberFor_memberOf (config : Config) (field : Field) :
    IsMemberFor config field (config.memberOf field) := by
  refine ⟨⟨field.key.toList, decoded?_quoted field.key, ?_⟩, states_valueOf config field⟩
  rw [String.ofList_toList, Field.ofKey?_key]

end Loading

/-- What is loaded when as many settings of a configuration as this are stored, the first ones,
and the others are not. -/
structure IsLoadedFromBoth (config : Config) (count : Nat) : Prop where
  /-- Every configuration can be stored so. -/
  writable : ∃ ordered, List.Forall₂ (IsMemberFor config) (Field.all.take count) ordered
  list : ∀ {values : List Value} {path : String} {disk : Disk},
    List.Forall₂ (States config) (Field.all.take count) values →
    IsStored (.list values) path disk →
    (load path disk).1 = .ok (config.keeping (Field.all.take count))
  object : ∀ {ordered members : List Member} {path : String} {disk : Disk},
    List.Forall₂ (IsMemberFor config) (Field.all.take count) ordered → ordered.Perm members →
    IsStored (.object members) path disk →
    (load path disk).1 = .ok (config.keeping (Field.all.take count))

theorem isLoadedFromBoth (config : Config) (count : Nat) : IsLoadedFromBoth config count where
  writable := by
    refine ⟨(Field.all.take count).map config.memberOf, ?_⟩
    rw [List.forall₂_map_right_iff, List.forall₂_same]
    exact fun field _ => isMemberFor_memberOf config field
  list states stored := (load_list_iff stored).mpr (listed?_keeping states)
  object isMembers perm stored := by
    obtain ⟨under, states⟩ := forall₂_isMemberFor isMembers
    exact (load_object_iff under perm stored).mpr (listed?_keeping states)

/-- The first settings of a configuration are loaded alike from a list of their values and from
an object with a member for each of them, in any order, with any gaps and in any way to write
them, and the other settings have their defaults.  Values that are no settings make no
difference between the two shapes.  Nothing is loaded from a list that goes on behind the value
of the last setting. -/
theorem load_shapes :
    (∀ config count, IsLoadedFromBoth config count) ∧
    (∀ {count : Nat} {ordered members : List Member} {path other : String}
        {disk otherDisk : Disk} {config : Config},
      List.Forall₂ IsUnder (Field.all.take count) ordered → ordered.Perm members →
      IsStored (.list (ordered.map Prod.snd)) path disk →
      IsStored (.object members) other otherDisk →
      ((load path disk).1 = .ok config ↔ (load other otherDisk).1 = .ok config)) ∧
    ∀ {values : List Value} {path : String} {disk : Disk},
      Field.all.length < values.length ∧ IsStored (.list values) path disk ∨
        values.length = Field.all.length ∧ GoesOn values path disk →
      ∃ problem position,
        (load path disk).1 = .error (.config (.malformed problem position)) := by
  refine ⟨isLoadedFromBoth, fun under perm list object => ?_, ?_⟩
  · rw [load_list_iff list, load_object_iff under perm object]
  · rintro values path disk (⟨more, text, read, spaced⟩ | ⟨all, text, rest, read, spaced⟩)
    · exact load_text_error read ((parse_list spaced).trans (listed?_eq_none more))
    · exact load_text_error read (parse_goesOn all spaced)

/-- The bytes of a value that is written without gaps. -/
def bytesOf (value : Value) : ByteArray :=
  (String.ofList value.tokens.flatten).toUTF8

theorem isStored_bytesOf {value : Value} {path : String} {disk : Disk} {identity : Nat}
    {executable : Bool}
    (found : disk.entryAt? path = .ok (.file identity (bytesOf value) executable))
    (noFault : disk.nextFault.1 = none) : IsStored value path disk := by
  refine ⟨_, readText_file found noFault, ?_⟩
  rw [String.toList_ofList]
  exact spaced_flatten _

/-- A configuration whose first five settings are not all the defaults. -/
def switched : Config :=
  { sourceLocations := ["a\"b"], printAssembly := true, tieredCompilation := .forceOn }

/-- The values of these settings, with the switch as an object. -/
def switchedValues : List Value :=
  (Field.all.take 4).map switched.valueOf ++ [.object [(quoted "force_on", .word .null)]]

/-- The members for these settings, the last one first. -/
def switchedMembers : List Member :=
  ((Field.all.take 5).map switched.memberOf).reverse

/-- A disk with a file for either shape. -/
def bothShapes (list object : ByteArray) : Disk :=
  { tree := ⟨[("list.json", .file 0 list false), ("object.json", .file 1 object false)], 2⟩
    current := [] }

theorem entryAt?_bothShapes (list object : ByteArray) :
    (bothShapes list object).entryAt? "/list.json" = .ok (.file 0 list false) ∧
      (bothShapes list object).entryAt? "/object.json" = .ok (.file 1 object false) := by
  constructor <;> cbv

theorem states_switchedValues :
    List.Forall₂ (States switched) (Field.all.take 5) switchedValues := by
  have word : Mode.ofName? "force_on" = some .forceOn := Mode.ofName?_name .forceOn
  have switch :
      States switched .tieredCompilation (.object [(quoted "force_on", .word .null)]) := by
    simp [States, said?, mode?, text?_quoted, word, filled, standard, switched]
  exact .cons (states_valueOf ..) (.cons (states_valueOf ..) (.cons (states_valueOf ..)
    (.cons (states_valueOf ..) (.cons switch .nil))))

/-- Both files hold the same configuration. -/
theorem load_shapes_switched :
    let disk := bothShapes (bytesOf (.list switchedValues)) (bytesOf (.object switchedMembers))
    (IsStored (.list switchedValues) "/list.json" disk ∧
      IsStored (.object switchedMembers) "/object.json" disk) ∧
      (load "/list.json" disk).1 = .ok switched ∧ (load "/object.json" disk).1 = .ok switched := by
  intro disk
  have found := entryAt?_bothShapes (bytesOf (.list switchedValues))
    (bytesOf (.object switchedMembers))
  have list : IsStored (.list switchedValues) "/list.json" disk := isStored_bytesOf found.1 rfl
  have object : IsStored (.object switchedMembers) "/object.json" disk :=
    isStored_bytesOf found.2 rfl
  have all : switched.keeping (Field.all.take 5) = switched := by
    simp [keeping, Field.all, filled, standard, switched]
  have isMembers : List.Forall₂ (IsMemberFor switched) (Field.all.take 5)
      ((Field.all.take 5).map switched.memberOf) := by
    rw [List.forall₂_map_right_iff, List.forall₂_same]
    exact fun field _ => isMemberFor_memberOf switched field
  have fromList := (load_shapes.1 switched 5).list states_switchedValues list
  have fromObject := (load_shapes.1 switched 5).object isMembers (List.reverse_perm _).symm object
  rw [all] at fromList fromObject
  exact ⟨⟨list, object⟩, fromList, fromObject⟩

end SnippetSandbox.Config
