import Receipt.CommandLine.Request

/-!
# The choice of a destination

The options that name a printer and a file are read alike, wherever they stand among the words of a
command line.  Two command lines that differ only in which of the two a path is given to are both
refused, or ask for the same with that path as a printer and as a file.
-/

set_option autoImplicit false

namespace Receipt.CommandLine

/-- How two command lines are sorted that give a path to the one and to the other of two options:
both are refused, or the option stands among the others, or its name is an operand. -/
inductive Swapped (first second path : String) : Option Words → Option Words → Prop
  | refused : Swapped first second path none none
  | given (before after : List (String × String)) (operands : List String) :
      Swapped first second path (some ⟨before ++ (first, path) :: after, operands⟩)
        (some ⟨before ++ (second, path) :: after, operands⟩)
  | operand (options : List (String × String)) (before after : List String) :
      Swapped first second path (some ⟨options, before ++ ("--" ++ first) :: path :: after⟩)
        (some ⟨options, before ++ ("--" ++ second) :: path :: after⟩)

/-- An option that takes the next word as its value. -/
theorem sort?_valued {kind? : String → Option OptionKind} {word name value : String}
    {rest : List String} (goes_on : word ≠ "--")
    (option : Words.splitOption? word = some (name, none)) (valued : kind? name = some .valued) :
    Words.sort? kind? (word :: value :: rest) =
      if Words.isPlain value then (Words.sort? kind? rest).map (Words.addOption name value)
      else none := by
  rw [Words.sort?, if_neg goes_on]
  simp only [option, valued]

namespace Swapped

variable {first second path : String} {one other : Option Words}

/-- One more option in front keeps words swapped. -/
theorem addOption (h : Swapped first second path one other) (name value : String) :
    Swapped first second path (one.map (Words.addOption name value))
      (other.map (Words.addOption name value)) := by
  cases h with
  | refused => exact refused
  | given before after operands => exact given ((name, value) :: before) after operands
  | operand options before after => exact operand ((name, value) :: options) before after

/-- One more operand in front keeps words swapped. -/
theorem addOperand (h : Swapped first second path one other) (word : String) :
    Swapped first second path (one.map (Words.addOperand word))
      (other.map (Words.addOperand word)) := by
  cases h with
  | refused => exact refused
  | given before after operands => exact given before after (word :: operands)
  | operand options before after => exact operand options (word :: before) after

/-- Words are sorted alike, whichever of two options with a value a path is given to. -/
theorem sort? {kind? : String → Option OptionKind} (outputs : kind? "output" = some .valued)
    (devices : kind? "device" = some .valued) (path : String) (front back : List String) :
    Swapped "output" "device" path (Words.sort? kind? (front ++ "--output" :: path :: back))
      (Words.sort? kind? (front ++ "--device" :: path :: back)) := by
  fun_induction Words.sort? kind? front with
  | case1 =>
      rw [List.nil_append, List.nil_append, sort?_valued (by decide) (by decide) outputs,
        sort?_valued (by decide) (by decide) devices]
      split
      · cases Words.sort? kind? back with
        | none => exact refused
        | some words => exact given [] words.options words.operands
      · exact refused
  | case2 rest =>
      rw [List.cons_append, List.cons_append, Words.sort?, Words.sort?, if_pos rfl, if_pos rfl]
      exact operand [] rest back
  | case3 word rest named option plain ih =>
      rw [List.cons_append, List.cons_append, Words.sort?, Words.sort?, if_neg named, if_neg named]
      simp only [option, plain, if_true]
      exact ih.addOperand word
  | case4 word rest named option plain =>
      rw [List.cons_append, List.cons_append, Words.sort?, Words.sort?, if_neg named, if_neg named]
      simp only [option, plain]
      exact refused
  | case5 word rest named name flag option ih =>
      rw [List.cons_append, List.cons_append, Words.sort?, Words.sort?, if_neg named, if_neg named]
      simp only [option, flag]
      exact ih.addOption name ""
  | case6 word rest named name value valued option ih =>
      rw [List.cons_append, List.cons_append, Words.sort?, Words.sort?, if_neg named, if_neg named]
      simp only [option, valued]
      exact ih.addOption name value
  | case7 word named name valued value behind plain option ih =>
      rw [List.cons_append, List.cons_append, List.cons_append, List.cons_append,
        sort?_valued named option valued, sort?_valued named option valued, if_pos plain,
        if_pos plain]
      exact ih.addOption name value
  | case8 word named name valued value behind plain option =>
      rw [List.cons_append, List.cons_append, List.cons_append, List.cons_append,
        sort?_valued named option valued, sort?_valued named option valued, if_neg plain,
        if_neg plain]
      exact refused
  | case9 word named name valued option =>
      -- An option that wants a value finds the name of the next option, which is none.
      rw [List.singleton_append, List.singleton_append, sort?_valued named option valued,
        sort?_valued named option valued, if_neg (by decide), if_neg (by decide)]
      exact refused
  | case10 word rest named name attached option flag joined valued =>
      rw [List.cons_append, List.cons_append, Words.sort?, Words.sort?, if_neg named, if_neg named]
      cases known : kind? name with
      | none =>
          simp only [option, known]
          exact refused
      | some sort =>
          cases sort with
          | flag =>
              cases attached with
              | none => cases flag known rfl
              | some value =>
                  simp only [option, known]
                  exact refused
          | valued =>
              cases attached with
              | none => cases valued known rfl
              | some value => cases joined value known rfl

end Swapped

namespace Words

/-- Which of the two options a path is given to does not matter for help. -/
theorem beforeHelp?_swap (path : String) (front back : List String) :
    beforeHelp? (front ++ "--output" :: path :: back) = none ↔
      beforeHelp? (front ++ "--device" :: path :: back) = none := by
  induction front with
  | nil =>
      have output_asks : asksFor 'h' "help" "--output" = false := by decide
      have device_asks : asksFor 'h' "help" "--device" = false := by decide
      simp [beforeHelp?, output_asks, device_asks]
  | cons word rest ih =>
      rw [List.cons_append, List.cons_append, beforeHelp?, beforeHelp?]
      split
      · exact Iff.rfl
      · split
        · exact Iff.rfl
        · simp only [Option.map_eq_none_iff, ih]

variable {before after : List (String × String)} {name other path : String}
  {operands : List String}

/-- An option that is given once more can be read if it was not given before. -/
theorem value?_given_self :
    value? ⟨before ++ (name, path) :: after, operands⟩ name =
      if valuesOf ⟨before ++ after, operands⟩ name = [] then some (some path) else none := by
  have values : valuesOf ⟨before ++ (name, path) :: after, operands⟩ name =
      valuesOf ⟨before, operands⟩ name ++ path :: valuesOf ⟨after, operands⟩ name := by
    simp [valuesOf]
  have others : valuesOf ⟨before ++ after, operands⟩ name =
      valuesOf ⟨before, operands⟩ name ++ valuesOf ⟨after, operands⟩ name := by
    simp [valuesOf]
  rw [value?, values, others]
  cases valuesOf ⟨before, operands⟩ name with
  | nil => cases valuesOf ⟨after, operands⟩ name <;> rfl
  | cons first rest => cases rest <;> rfl

/-- Another option is read as without the given one. -/
theorem value?_given_of_ne (different : name ≠ other) :
    value? ⟨before ++ (name, path) :: after, operands⟩ other =
      value? ⟨before ++ after, operands⟩ other := by
  have values : valuesOf ⟨before ++ (name, path) :: after, operands⟩ other =
      valuesOf ⟨before ++ after, operands⟩ other := by
    simp [valuesOf, different]
  rw [value?, value?, values]

/-- The path behind an option, which may be missing. -/
def pathBehind? (words : Words) (name : String) : Option (Option String) :=
  (words.value? name).bind optionalPath?

/-- A path is the one behind its option if that was not given before. -/
theorem pathBehind?_given_self :
    pathBehind? ⟨before ++ (name, path) :: after, operands⟩ name =
      if valuesOf ⟨before ++ after, operands⟩ name = [] then (path? path).map some
      else none := by
  rw [pathBehind?, value?_given_self]
  split <;> rfl

/-- The path behind another option is read as without the given one. -/
theorem pathBehind?_given_of_ne (different : name ≠ other) :
    pathBehind? ⟨before ++ (name, path) :: after, operands⟩ other =
      pathBehind? ⟨before ++ after, operands⟩ other := by
  rw [pathBehind?, pathBehind?, value?_given_of_ne different]

/-- An option that is not given has no path. -/
theorem pathBehind?_of_nil {words : Words} (none_given : words.valuesOf name = []) :
    words.pathBehind? name = some none := by
  rw [pathBehind?, value?, none_given]
  rfl

/-- There is a path behind an option that was given, unless it cannot be read. -/
theorem pathBehind?_of_ne_nil {words : Words} (given : words.valuesOf name ≠ []) :
    words.pathBehind? name = none ∨ ∃ text, words.pathBehind? name = some (some text) := by
  have valued : words.value? name = none ∨ ∃ text, words.value? name = some (some text) := by
    unfold value?
    split
    · next none_given => exact absurd none_given given
    · next text _ => exact Or.inr ⟨text, rfl⟩
    · exact Or.inl rfl
  rcases valued with unread | ⟨text, read⟩
  · rw [pathBehind?, unread]
    exact Or.inl rfl
  · rw [pathBehind?, read]
    change (path? text).map some = none ∨ ∃ found, (path? text).map some = _
    cases path? text with
    | none => exact Or.inl rfl
    | some found => exact Or.inr ⟨found, rfl⟩

end Words

/-- The target with another destination. -/
def Target.sendTo (destination : Destination) (target : Target) : Target :=
  { target with destination := destination }

/-- The target of a request that has one. -/
def Request.target? : Request → Option Target
  | .print _ target _ _ _ => some target
  | .charsets _ target => some target
  | _ => none

/-- The request with another destination, if it has one. -/
def Request.sendTo (destination : Destination) : Request → Request
  | .print file target finish strips feed =>
    .print file (target.sendTo destination) finish strips feed
  | .charsets ids target => .charsets ids (target.sendTo destination)
  | request => request

/-- The destination of words: what is behind the two options that name one. -/
def Target.destinationOf? (words : Words) : Option Destination :=
  (words.pathBehind? "device").bind fun device =>
  (words.pathBehind? "output").bind fun output => destination? device output

/-- The target of words is read from its name, its file and its destination. -/
theorem Target.join_ofWords? (words : Words) :
    (ofWords? words).join =
      (words.value? "profile").bind fun profileName =>
      (words.pathBehind? "profile-file").bind fun profileFile =>
      (destinationOf? words).map fun destination =>
        ⟨profileName.getD standardProfile, profileFile, destination⟩ := by
  simp only [ofWords?, destinationOf?, Words.pathBehind?, ← Option.bind_id_eq_join,
    Option.bind_eq_bind, Option.bind_assoc, Option.pure_def, Option.bind_some, id, Option.map_bind,
    Function.comp_def]

/-- A path is no destination when the other option is given besides. -/
theorem Target.destination?_of_given {words : Words} {name : String}
    (given : words.valuesOf name ≠ []) (path : String) :
    (words.pathBehind? name).bind (fun output => destination? (some path) output) = none ∧
      (words.pathBehind? name).bind (fun device => destination? device (some path)) = none := by
  rcases Words.pathBehind?_of_ne_nil given with unread | ⟨text, read⟩
  · rw [unread]
    exact ⟨rfl, rfl⟩
  · rw [read]
    exact ⟨rfl, rfl⟩

/-- A path that one of the two options is given to is a destination unless it is empty or one of
them is given besides. -/
theorem Target.destinationOf?_given (before after : List (String × String))
    (operands : List String) (path : String) :
    let output := destinationOf? ⟨before ++ ("output", path) :: after, operands⟩
    let device := destinationOf? ⟨before ++ ("device", path) :: after, operands⟩
    output = none ∧ device = none ∨ output = some (.file path) ∧ device = some (.printer path) := by
  dsimp only
  rw [destinationOf?, destinationOf?, Words.pathBehind?_given_self, Words.pathBehind?_given_self,
    Words.pathBehind?_given_of_ne (by decide), Words.pathBehind?_given_of_ne (by decide)]
  generalize (⟨before ++ after, operands⟩ : Words) = others
  have named : path? path = none ∨ path? path = some path := by
    unfold path?
    split
    · exact Or.inl rfl
    · exact Or.inr rfl
  rcases named with empty | full
  · left
    rw [empty]
    refine ⟨?_, by simp⟩
    cases others.pathBehind? "device" <;> simp
  -- The path is accepted if neither option was given before, by itself or for the other one.
  · rw [full]
    by_cases output_free : others.valuesOf "output" = []
    · rw [if_pos output_free, Words.pathBehind?_of_nil output_free]
      by_cases device_free : others.valuesOf "device" = []
      · rw [if_pos device_free, Words.pathBehind?_of_nil device_free]
        exact Or.inr ⟨rfl, rfl⟩
      · rw [if_neg device_free]
        exact Or.inl ⟨(destination?_of_given device_free path).2, rfl⟩
    · rw [if_neg output_free]
      refine Or.inl ⟨by cases others.pathBehind? "device" <;> rfl, ?_⟩
      by_cases device_free : others.valuesOf "device" = []
      · rw [if_pos device_free]
        exact (destination?_of_given output_free path).1
      · rw [if_neg device_free]
        rfl

/-- A path can be the file or the printer of the same target, or is refused as both. -/
theorem Target.exists_ofWords? (before after : List (String × String)) (operands : List String)
    (path : String) :
    ∃ target : Option Target,
      (ofWords? ⟨before ++ ("output", path) :: after, operands⟩).join =
          target.map (sendTo (.file path)) ∧
        (ofWords? ⟨before ++ ("device", path) :: after, operands⟩).join =
          target.map (sendTo (.printer path)) := by
  rw [join_ofWords?, join_ofWords?, Words.value?_given_of_ne (by decide),
    Words.value?_given_of_ne (by decide), Words.pathBehind?_given_of_ne (by decide),
    Words.pathBehind?_given_of_ne (by decide)]
  generalize Words.value? ⟨before ++ after, operands⟩ "profile" = profileName
  generalize Words.pathBehind? ⟨before ++ after, operands⟩ "profile-file" = profileFile
  rcases destinationOf?_given before after operands path with ⟨output, device⟩ | ⟨output, device⟩
  · rw [output, device]
    refine ⟨none, ?_⟩
    cases profileName <;> cases profileFile <;> exact ⟨rfl, rfl⟩
  · rw [output, device]
    cases profileName with
    | none => exact ⟨none, rfl, rfl⟩
    | some name =>
        cases profileFile with
        | none => exact ⟨none, rfl, rfl⟩
        | some file => exact ⟨some ⟨name.getD standardProfile, file, .file path⟩, rfl, rfl⟩

namespace Request

/-- What is read for a document beside its target: the file, what happens after printing, whether
images are printed as strips, and the feed. -/
def documentOptions? (words : Words) : Option (String × Finish × Bool × Number.Single) :=
  (file? words).join.bind fun file =>
  (words.flag? "cut").bind fun cut =>
  (words.flag? "cash-drawer").bind fun drawer =>
  (words.flag? "strip-raster").bind fun strips =>
  (words.value? "feed-mm").bind fun feedText =>
  (feed? feedText).map fun feed => (file, finishOf cut drawer, strips, feed)

/-- A document is printed for the target that is read. -/
theorem join_print? (words : Words) :
    (print? words).join =
      (documentOptions? words).bind fun options =>
        (Target.ofWords? words).join.map fun target =>
          .print options.1 target options.2.1 options.2.2.1 options.2.2.2 := by
  ext request
  simp only [print?, documentOptions?, ← Option.bind_id_eq_join, Option.bind_eq_bind,
    Option.bind_assoc, Option.pure_def, Option.map_eq_bind, Option.bind_eq_some_iff,
    Option.some.injEq, id, Function.comp_apply, exists_eq_left']
  constructor
  · rintro ⟨_, given, _, asked, cut, cuts, drawer, opens, strips, striped, text, feeds, feed, fed,
      file, rfl, target, rfl, made⟩
    exact ⟨_, given, file, rfl, cut, cuts, drawer, opens, strips, striped, text, feeds, feed, fed,
      _, asked, target, rfl, made⟩
  · rintro ⟨_, given, file, rfl, cut, cuts, drawer, opens, strips, striped, text, feeds, feed, fed,
      _, asked, target, rfl, made⟩
    exact ⟨_, given, _, asked, cut, cuts, drawer, opens, strips, striped, text, feeds, feed, fed,
      file, rfl, target, rfl, made⟩

/-- Tables are printed for the target that is read. -/
theorem join_charsets? (words : Words) :
    (charsets? words).join =
      (words.operands.mapM table?).bind fun ids =>
        (Target.ofWords? words).join.map fun target => .charsets ids target := by
  simp only [charsets?, ← Option.bind_id_eq_join, Option.bind_eq_bind, Option.bind_assoc,
    Option.pure_def, Option.map_eq_bind, Option.bind_some, id, Function.comp_def]

/-- Whether words are read as the same request for a file and for a printer, whichever of the two
options a path is given to, and as none when the name of an option is an operand. -/
structure ReadsDestination (read? : Words → Option (Option Request)) : Prop where
  given (before after : List (String × String)) (operands : List String) (path : String) :
    ∃ asked : Option Request,
      (read? ⟨before ++ ("output", path) :: after, operands⟩).join =
          asked.map (sendTo (.file path)) ∧
        (read? ⟨before ++ ("device", path) :: after, operands⟩).join =
          asked.map (sendTo (.printer path)) ∧
        ∀ request, asked = some request → request.target?.isSome = true
  operand (options : List (String × String)) (before after : List String) (path : String) :
    (read? ⟨options, before ++ "--output" :: path :: after⟩).join = none ∧
      (read? ⟨options, before ++ "--device" :: path :: after⟩).join = none

/-- Two operands are not a file. -/
theorem file?_of_two (options : List (String × String)) (before after : List String)
    (first second : String) :
    file? ⟨options, before ++ first :: second :: after⟩ = none := by
  cases before with
  | nil => rfl
  | cons word rest => cases rest <;> rfl

/-- What is read for a document does not depend on an option for the destination. -/
theorem documentOptions?_given {name : String} (chosen : name = "output" ∨ name = "device")
    (before after : List (String × String)) (operands : List String) (path : String) :
    documentOptions? ⟨before ++ (name, path) :: after, operands⟩ =
      documentOptions? ⟨before ++ after, operands⟩ := by
  have kept (other : String) (apart : other ∉ ["output", "device"]) :
      Words.value? ⟨before ++ (name, path) :: after, operands⟩ other =
        Words.value? ⟨before ++ after, operands⟩ other := by
    apply Words.value?_given_of_ne
    rintro rfl
    rcases chosen with rfl | rfl <;> exact apart (by decide)
  have same_file : file? ⟨before ++ (name, path) :: after, operands⟩ =
      file? ⟨before ++ after, operands⟩ := rfl
  simp only [documentOptions?, Words.flag?, same_file, kept "cut" (by decide),
    kept "cash-drawer" (by decide), kept "strip-raster" (by decide), kept "feed-mm" (by decide)]

/-- The command that prints a text reads a path as its destination, whichever option gives it. -/
theorem readsDestination_print? : ReadsDestination print? where
  given before after operands path := by
    obtain ⟨target, output, device⟩ := Target.exists_ofWords? before after operands path
    refine ⟨(documentOptions? ⟨before ++ after, operands⟩).bind fun options =>
      target.map fun target => .print options.1 target options.2.1 options.2.2.1 options.2.2.2, ?_⟩
    rw [join_print?, join_print?, output, device, documentOptions?_given (Or.inl rfl),
      documentOptions?_given (Or.inr rfl)]
    generalize documentOptions? ⟨before ++ after, operands⟩ = options
    cases options with
    | none => exact ⟨rfl, rfl, nofun⟩
    | some options =>
        cases target with
        | none => exact ⟨rfl, rfl, nofun⟩
        | some target =>
            refine ⟨rfl, rfl, ?_⟩
            rintro _ ⟨⟩
            rfl
  operand options before after path := by
    rw [join_print?, join_print?, documentOptions?, documentOptions?, file?_of_two, file?_of_two]
    exact ⟨rfl, rfl⟩

/-- One refused table refuses all of them. -/
theorem mapM_table?_of_refused {word : String} (refused : table? word = none)
    (before after : List String) : (before ++ word :: after).mapM table? = none := by
  induction before with
  | nil => simp [refused]
  | cons first rest ih => simp [ih]

/-- The command that prints tables reads a path as its destination, whichever option gives it. -/
theorem readsDestination_charsets? : ReadsDestination charsets? where
  given before after operands path := by
    obtain ⟨target, output, device⟩ := Target.exists_ofWords? before after operands path
    refine ⟨(operands.mapM table?).bind fun ids =>
      target.map fun target => .charsets ids target, ?_⟩
    rw [join_charsets?, join_charsets?, output, device]
    dsimp only
    cases operands.mapM table? with
    | none => exact ⟨rfl, rfl, nofun⟩
    | some ids =>
        cases target with
        | none => exact ⟨rfl, rfl, nofun⟩
        | some target =>
            refine ⟨rfl, rfl, ?_⟩
            rintro _ ⟨⟩
            rfl
  operand options before after path := by
    rw [join_charsets?, join_charsets?, mapM_table?_of_refused (by decide),
      mapM_table?_of_refused (by decide)]
    exact ⟨rfl, rfl⟩

/-- Sorted words that give a path to the one and to the other option make the same request for that
path as a file and as a printer. -/
theorem ReadsDestination.exists_asked {read? : Words → Option (Option Request)}
    (reads : ReadsDestination read?) {path : String} {one other : Option Words}
    (swapped : Swapped "output" "device" path one other) :
    ∃ asked : Option Request,
      (one.bind read?).join = asked.map (sendTo (.file path)) ∧
        (other.bind read?).join = asked.map (sendTo (.printer path)) ∧
        ∀ request, asked = some request → request.target?.isSome = true := by
  cases swapped with
  | refused => exact ⟨none, rfl, rfl, nofun⟩
  | given before after operands => exact reads.given before after operands path
  | operand options before after =>
      obtain ⟨output, device⟩ := reads.operand options before after path
      exact ⟨none, output, device, nofun⟩

/-- The two options choose the destination and nothing else.  A command line that prints a document
or tables, and does not ask for help, makes the same request whether a path is given to the one or
to the other, wherever it stands: for that path as a file, and for it as a printer. -/
theorem exists_asked {command : String} (job : command = "print" ∨ command = "charsets")
    (front back : List String) (path : String)
    (unaided : Words.beforeHelp? (front ++ "--device" :: path :: back) = none) :
    ∃ asked : Option Request,
      ofArguments? (command :: (front ++ "--output" :: path :: back)) =
          asked.map (sendTo (.file path)) ∧
        ofArguments? (command :: (front ++ "--device" :: path :: back)) =
          asked.map (sendTo (.printer path)) ∧
        ∀ request, asked = some request → request.target?.isSome = true := by
  have unaided_output := (Words.beforeHelp?_swap path front back).mpr unaided
  rcases job with rfl | rfl
  · have subcommand (words : List String) :
        ofArguments? ("print" :: words) = ofSubcommand? .print printKind? print? words := by
      rfl
    rw [subcommand, subcommand, ofSubcommand?, ofSubcommand?, unaided, unaided_output]
    exact readsDestination_print?.exists_asked (Swapped.sort? rfl rfl path front back)
  · have subcommand (words : List String) :
        ofArguments? ("charsets" :: words) =
          ofSubcommand? .charsets targetKind? charsets? words := by
      rfl
    rw [subcommand, subcommand, ofSubcommand?, ofSubcommand?, unaided, unaided_output]
    exact readsDestination_charsets?.exists_asked (Swapped.sort? rfl rfl path front back)

end Request

end Receipt.CommandLine
