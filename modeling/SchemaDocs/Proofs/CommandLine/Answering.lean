import SchemaDocs.CommandLine.Run
import SchemaDocs.Proofs.Config.Settings
import SchemaDocs.Proofs.Response.Assembly
import SchemaDocs.Proofs.Wire.Records
/-!
# Answering a request

A request is answered under the settings of a configuration file, of the command line or the
environment and of its own parameter, of which the last one counts.  The answer holds what was
documented, or else the text of a failure and nothing more.
-/

namespace SchemaDocs

/-! ## Configurations of a run -/

/-- The settings in the file of a path, if there is one. -/
def Setting.ofFile {m : Type → Type} [Monad m] (files : FileAccess m) :
    Option String → m (List Setting)
  | none => pure []
  | some path => do
    let contents ← files.read path
    pure ((contents.toOption.map ofFileBytes).getD [])

/-- The settings of a command for the converter, if there is one. -/
def Setting.ofCommand (command : Option String) : List Setting :=
  command.toList.map fun text => .converter (.command text)

/-- The pairs of a request's parameter, if there is one. -/
def GenerateRequest.pairs (request : GenerateRequest) : List (List Char) :=
  request.parameter.elim [] Config.pairsOf

/-- The settings of a request's parameter. -/
def Setting.ofRequest (request : GenerateRequest) : List Setting :=
  request.pairs.filterMap ofPair?

section

variable {World : Type}

theorem CommandLine.loadConfig_ok {files : FileAccess (StateM World)} {path : Option String}
    {before after : World} {config : Config}
    (h : (loadConfig files path).run before = (.ok config, after)) :
    config = Config.settled ((Setting.ofFile files path).run before).1 := by
  cases path with
  | none => exact (Except.ok.inj (congrArg Prod.fst h)).symm
  | some path =>
      rw [loadConfig, Config.load, StateT.run_bind, StateT.run_bind] at h
      rw [Setting.ofFile, StateT.run_bind]
      generalize (files.read path).run before = read at h ⊢
      obtain ⟨contents, next⟩ := read
      cases contents with
      | error cause => cases h
      | ok bytes =>
          change (StateT.run (pure (Config.ofFileBytes path bytes)) next >>= _) = _ at h
          cases hread : Config.ofFileBytes path bytes with
          | error cause =>
              rw [hread] at h
              cases h
          | ok read =>
              rw [hread] at h
              obtain rfl : read = config := Except.ok.inj (congrArg Prod.fst h)
              exact Config.ofFileBytes_ok hread

end

theorem CommandLine.withCommand_settled (settings : List Setting) (command : Option String) :
    withCommand (Config.settled settings) command =
      Config.settled (settings ++ Setting.ofCommand command) := by
  cases command with
  | none =>
      rw [Setting.ofCommand, Option.toList_none, List.map_nil, List.append_nil]
      rfl
  | some text =>
      rw [Setting.ofCommand, Option.toList_some, List.map_singleton, Config.settled_concat]
      rfl

namespace Response

theorem effectiveConfig_eq (config : Config) (request : GenerateRequest) :
    effectiveConfig config request =
      match (config.applyPairs request.pairs).1 with
      | .error cause => .error (.config (.parameter cause))
      | .ok () => .ok (config.applyPairs request.pairs).2 := by
  rw [effectiveConfig, GenerateRequest.givenParameter?, GenerateRequest.pairs]
  cases request.parameter with
  | none => rfl
  | some parameter =>
      by_cases hempty : parameter = ""
      · rw [hempty]
        rfl
      · rw [Option.filter_some, if_pos (by simpa using hempty)]
        dsimp only [Config.applyParameter, Option.elim]
        generalize config.applyPairs (Config.pairsOf parameter) = applied
        obtain ⟨outcome, after⟩ := applied
        cases outcome <;> rfl

theorem effectiveConfig_of_fault {request : GenerateRequest} {fault : ParameterError}
    (h : request.pairs.findSome? ParameterError.ofPair? = some fault) (config : Config) :
    effectiveConfig config request = .error (.config (.parameter fault)) := by
  rw [effectiveConfig_eq, Config.applyPairs_of_fault h]

/-- A parameter with nothing wrong in it is put over the settings that there are. -/
theorem effectiveConfig_of_good {request : GenerateRequest}
    (h : ∀ pair ∈ request.pairs, ParameterError.ofPair? pair = none) (settings : List Setting) :
    effectiveConfig (Config.settled settings) request =
      .ok (Config.settled (settings ++ Setting.ofRequest request)) := by
  rw [effectiveConfig_eq, Config.applyPairs_of_good h, Config.foldl_put_settled]
  rfl

/-! ## The conversion for a request -/

/-- The conversion of the comments that a request documents, all in one batch. -/
def conversion {m : Type → Type} [Monad m] (convert : Converter m) (config : Config)
    (request : GenerateRequest) : m (Except BatchError Batch) :=
  let (docs, found) := request.findDocs Registry.empty
  match (Batch.new config.markup).submitAll (commentsOf found (distinctHandles docs)) with
  | .error cause => pure (.error cause)
  | .ok batch => batch.convertAll convert

/-- The comments that a request documents, with their links replaced. -/
def rewrittenComments (config : Config) (request : GenerateRequest) : List String :=
  (commentsOf (request.findDocs Registry.empty).2
    (distinctHandles (request.findDocs Registry.empty).1)).map
      (Markup.replaceLinks config.docsHost)

theorem conversion_eq {m : Type → Type} [Monad m] (convert : Converter m) (config : Config)
    (request : GenerateRequest) :
    conversion convert config request =
      (Batch.filled config.markup (rewrittenComments config request)).convertAll convert := by
  rw [conversion]
  dsimp only
  rw [Batch.submitAll_new]
  rfl

section

variable {World : Type} (convert : Converter (StateM World))

theorem conversion_run (config : Config) (request : GenerateRequest) (before : World) :
    ∃ answer, ((conversion convert config request).run before).1 =
      Batch.outcome (fun _ => answer) config.markup (rewrittenComments config request) := by
  rw [conversion_eq, Batch.convertAll_filled]
  generalize rewrittenComments config request = comments
  by_cases hnone : Batch.waiting comments = []
  · refine ⟨.ok "", ?_⟩
    rw [if_pos hnone, Batch.outcome, if_pos hnone]
    rfl
  · refine ⟨((convert (Batch.callFor config.markup comments)).run before).1, ?_⟩
    rw [if_neg hnone, Batch.outcome, if_neg hnone]
    rfl

/-- A request can be answered, unless the conversion for it fails. -/
theorem assemble_cases (config : Config) (request : GenerateRequest) (before : World) :
    let outcome := ((conversion convert config request).run before).1
    ∃ after, (∃ cause, outcome = .error cause ∧
        (assemble convert config request).run before = (.error (.conversion cause), after)) ∨
      ((∀ cause, outcome ≠ .error cause) ∧ ∃ response,
        (assemble convert config request).run before = (.ok response, after) ∧
          response.error = none ∧ response.supportedFeatures = some supportedFeatures) := by
  intro outcome
  let docs := (request.findDocs Registry.empty).1
  let found := (request.findDocs Registry.empty).2
  let after := ((conversion convert config request).run before).2
  have hrun : (assemble convert config request).run before =
      (concluded config found docs outcome, after) := by
    simp only [assemble_eq, outcome, after, conversion_eq]
    rfl
  rw [hrun]
  refine ⟨after, ?_⟩
  cases houtcome : outcome with
  | error cause => exact .inl ⟨cause, rfl, rfl⟩
  | ok converted =>
      obtain ⟨answer, hanswer⟩ := conversion_run convert config request before
      obtain ⟨pieces, -, -, hremaining⟩ :=
        Batch.exists_remaining_of_outcome_ok _ _ _ (hanswer.symm.trans houtcome)
      obtain ⟨last, -, -, -, -, -, hconcluded⟩ :=
        concluded_of_remaining (request.finds_findDocs Registry.wellFormed_empty) config hremaining
          (by rw [Batch.length_restored, rewrittenComments, List.length_map])
      exact .inr ⟨by simp, ofDocs config last docs, by rw [hconcluded], rfl, rfl⟩

end

/-- An answer fails by the first wrong pair of the parameter, or else by the conversion. -/
theorem answer_cases {World : Type} (converter : ConverterConfig → Converter (StateM World))
    (settings : List Setting) (request : GenerateRequest) (before : World) :
    let config := Config.settled (settings ++ Setting.ofRequest request)
    let outcome := ((conversion (converter config.converter) config request).run before).1
    let fault? := request.pairs.findSome? ParameterError.ofPair?
    ∃ result after,
      (answer converter (Config.settled settings) request).run before = (result, after) ∧
      ((∃ fault, fault? = some fault ∧ result = .error (.config (.parameter fault))) ∨
        (fault? = none ∧ ∃ cause, outcome = .error cause ∧ result = .error (.conversion cause)) ∨
        (fault? = none ∧ (∀ cause, outcome ≠ .error cause) ∧ ∃ response, result = .ok response ∧
          (assemble (converter config.converter) config request).run before =
            (.ok response, after) ∧
          response.error = none ∧ response.supportedFeatures = some supportedFeatures)) := by
  intro config outcome fault?
  cases hfault : fault? with
  | some fault =>
      rw [answer, effectiveConfig_of_fault hfault]
      exact ⟨_, before, rfl, .inl ⟨fault, rfl, rfl⟩⟩
  | none =>
      rw [answer, effectiveConfig_of_good (List.findSome?_eq_none_iff.1 hfault)]
      dsimp only
      obtain ⟨after, ⟨cause, hcause, hfailed⟩ | ⟨hconverted, response, hassembled, hresponse⟩⟩ :=
        assemble_cases (converter config.converter) config request before
      · exact ⟨_, after, hfailed, .inr (.inl ⟨rfl, cause, hcause, rfl⟩)⟩
      · exact ⟨_, after, hassembled,
          .inr (.inr ⟨rfl, hconverted, response, rfl, hassembled, hresponse⟩)⟩

end Response

namespace CommandLine

open Response

variable {World : Type} (host : Host (StateM World)) {environment : Option String}
  {arguments : List String} {invocation : Invocation} {start loaded fed : World} {base : Config}
  {bytes : Bytes} {request : GenerateRequest}

/-- A request that can be read is answered in any case. -/
theorem run_of_request (hparse : parse environment arguments = .ok invocation)
    (haction : invocation.action = .answerRequest)
    (hload : (loadConfig host.files invocation.options.configPath).run start = (.ok base, loaded))
    (hinput : host.input.run loaded = (bytes, fed))
    (hrequest : GenerateRequest.decode bytes = .ok request) :
    (run host environment arguments).run start =
      let answered := (answer host.converter (withCommand base invocation.options.command)
        request).run fed
      (.success (ofOutcome answered.1).encode "", answered.2) := by
  rw [run, hparse]
  dsimp only
  rw [runInvocation, StateT.run_bind, hload]
  change (runAction host _ invocation.action).run loaded = _
  rw [haction, runAction, runAnswer, StateT.run_bind, hinput]
  change (answerBytes host _ bytes >>= _).run fed = _
  rw [answerBytes, hrequest]
  rfl

/-- Neither a command nor a parameter tells the converter anything but its command. -/
theorem commandOnly_of_mem {command : Option String} {setting : Setting}
    (h : setting ∈ Setting.ofCommand command ++ Setting.ofRequest request) :
    setting.args? = none ∧ setting.timeoutSecs? = none := by
  rcases List.mem_append.1 h with hcommand | hpair
  · obtain ⟨text, -, rfl⟩ := List.mem_map.1 hcommand
    exact ⟨rfl, rfl⟩
  · obtain ⟨pair, -, hsetting⟩ := List.mem_filterMap.1 hpair
    exact Setting.commandOnly_of_ofPair? hsetting

/-- A request that can be read is answered under the settings of the configuration file, of the
command line or the environment and of its parameter, where the last one counts.  The answer is the
one that is made under this configuration, or else the text of a failure and nothing more, which is
so exactly if a pair of the parameter is wrong or the conversion fails.  The converter's arguments
and its time stay as the file has them. -/
theorem request_answered_under_last_settings
    (hparse : parse environment arguments = .ok invocation)
    (haction : invocation.action = .answerRequest)
    (hload : (loadConfig host.files invocation.options.configPath).run start = (.ok base, loaded))
    (hinput : host.input.run loaded = (bytes, fed))
    (hrequest : GenerateRequest.decode bytes = .ok request) :
    let file := ((Setting.ofFile host.files invocation.options.configPath).run start).1
    let config := Config.settled
      (file ++ (Setting.ofCommand invocation.options.command ++ Setting.ofRequest request))
    let outcome := ((conversion (host.converter config.converter) config request).run fed).1
    ∃ response after,
      (run host environment arguments).run start = (.success response.encode "", after) ∧
      ((response.error = none ∧ response.supportedFeatures = some supportedFeatures ∧
          (assemble (host.converter config.converter) config request).run fed =
            (.ok response, after)) ∨
        ∃ failure : RunError, response = ⟨some failure.message, none, []⟩ ∧
          ((∃ fault, request.pairs.findSome? ParameterError.ofPair? = some fault ∧
              failure = .config (.parameter fault)) ∨
            (request.pairs.findSome? ParameterError.ofPair? = none ∧
              ∃ cause, outcome = .error cause ∧ failure = .conversion cause))) ∧
      (response.error.isSome ↔ (∃ pair ∈ request.pairs, (ParameterError.ofPair? pair).isSome) ∨
        ∃ cause, outcome = .error cause) ∧
      config.converter.args = base.converter.args ∧
      config.converter.timeoutSecs = base.converter.timeoutSecs := by
  intro file config outcome
  have hbase : base = Config.settled file := loadConfig_ok hload
  have hargs : config.converter.args = base.converter.args := by
    rw [hbase]
    simp only [config, Config.settled,
      Setting.last?_append_of_none (fun setting h => (commandOnly_of_mem h).1)]
  have htimeout : config.converter.timeoutSecs = base.converter.timeoutSecs := by
    rw [hbase]
    simp only [config, Config.settled,
      Setting.last?_append_of_none (fun setting h => (commandOnly_of_mem h).2)]
  have hrun := run_of_request host hparse haction hload hinput hrequest
  rw [hbase, withCommand_settled] at hrun
  obtain ⟨result, after, hanswer, hresult⟩ := answer_cases host.converter
    (file ++ Setting.ofCommand invocation.options.command) request fed
  rw [hanswer] at hrun
  rw [List.append_assoc] at hresult
  have hwrong : (request.pairs.findSome? ParameterError.ofPair?).isSome ↔
      ∃ pair ∈ request.pairs, (ParameterError.ofPair? pair).isSome := List.findSome?_isSome_iff
  refine ⟨_, after, hrun, ?_, ?_, hargs, htimeout⟩
  · rcases hresult with ⟨fault, hfault, rfl⟩ | ⟨hright, cause, hcause, rfl⟩ |
      ⟨-, -, response, rfl, hassembled, herror, hfeatures⟩
    · exact .inr ⟨_, rfl, .inl ⟨fault, hfault, rfl⟩⟩
    · exact .inr ⟨_, rfl, .inr ⟨hright, cause, hcause, rfl⟩⟩
    · exact .inl ⟨herror, hfeatures, hassembled⟩
  · rw [← hwrong]
    rcases hresult with ⟨fault, hfault, rfl⟩ | ⟨-, cause, hcause, rfl⟩ |
      ⟨hright, hconverted, response, rfl, -, herror, -⟩
    · exact iff_of_true rfl (.inl (by rw [hfault]; rfl))
    · exact iff_of_true rfl (.inr ⟨cause, hcause⟩)
    · refine iff_of_false (by simp [ofOutcome, herror]) ?_
      rintro (hsome | ⟨cause, hcause⟩)
      · simp [hright] at hsome
      · exact hconverted cause hcause

/-- A file, a command line and a parameter each name a converter.  The one of the parameter is run,
with the arguments of the file.  A wrong pair behind it is all that is told of. -/
theorem converter_of_parameter_is_run :
    let text := "target_format: plain\nconverter:\n  command: first\n  args: [-s]\n"
    let location : Location := { path := [4, 0], leading := some " *One*.\n" }
    let file : FileDescriptor :=
      { name := some "a.proto", messages := [{ name := some "A" }], sourceInfo := some ⟨[location]⟩ }
    let request (parameter : String) : GenerateRequest :=
      { filesToGenerate := ["a.proto"], parameter := some parameter, files := [file] }
    let files : FileAccess (StateM Unit) :=
      ⟨fun _ => pure (.ok (Text.toUtf8 text)), fun _ _ => pure (.ok ())⟩
    let host (parameter : String) : Host (StateM Unit) :=
      { files := files
        input := pure (request parameter).encode
        converter := fun config call => pure
          (if config.command = "last" ∧ config.args = ["-s"] ∧ call.targetFormat = "plain" then
            .ok call.text
          else .error (.spawnFailed config.command)) }
    let arguments := ["--config", "docs.yaml", "--pandoc", "second"]
    let message := "Configuration error: Expected key=value in parameter, got 'oops'"
    (∃ response : GenerateResponse, response.error = none ∧
      (run (host "pandoc=last") none arguments).run () = (.success response.encode "", ())) ∧
    (run (host "pandoc=last,oops") none arguments).run () =
      (.success (GenerateResponse.encode ⟨some message, none, []⟩) "", ()) := by
  intro text location file request files host arguments message
  let invocation : Invocation :=
    ⟨{ configPath := some "docs.yaml", command := some "second" }, .answerRequest⟩
  let base : Config :=
    { targetFormat := "plain", converter := { command := "first", args := ["-s"] } }
  let config : Config :=
    { targetFormat := "plain", converter := { command := "last", args := ["-s"] } }
  have hparse : parse none arguments = .ok invocation := eq_ok_of_toOption (by decide +kernel)
  have hread : ((loadConfig files (some "docs.yaml")).run ()).1.toOption = some base := by
    decide +kernel
  have hload : (loadConfig files (some "docs.yaml")).run () = (.ok base, ()) :=
    Prod.ext (eq_ok_of_toOption hread) rfl
  constructor
  · have hrequest : GenerateRequest.decode (request "pandoc=last").encode =
        .ok (request "pandoc=last") :=
      GenerateRequest.decode_encode (by decide +kernel) (by decide +kernel)
    obtain ⟨response, ⟨⟩, hrun, -, herror, -, -⟩ :=
      request_answered_under_last_settings (host "pandoc=last") hparse rfl hload rfl hrequest
    refine ⟨response, ?_, hrun⟩
    rw [← Option.not_isSome_iff_eq_none, herror, not_or]
    refine ⟨by decide +kernel, ?_⟩
    rintro ⟨cause, hcause⟩
    have hconfig : Config.settled
        (((Setting.ofFile (host "pandoc=last").files invocation.options.configPath).run ()).1 ++
          (Setting.ofCommand invocation.options.command ++
            Setting.ofRequest (request "pandoc=last"))) = config := by decide +kernel
    have hconverted : ((conversion ((host "pandoc=last").converter config.converter) config
        (request "pandoc=last")).run ()).1.toOption.isSome := by decide +kernel
    rw [hconfig] at hcause
    rw [hcause] at hconverted
    cases hconverted
  · have hrequest : GenerateRequest.decode (request "pandoc=last,oops").encode =
        .ok (request "pandoc=last,oops") :=
      GenerateRequest.decode_encode (by decide +kernel) (by decide +kernel)
    obtain ⟨response, ⟨⟩, hrun, hcases, herror, -, -⟩ :=
      request_answered_under_last_settings (host "pandoc=last,oops") hparse rfl hload rfl hrequest
    have hfault : (request "pandoc=last,oops").pairs.findSome? ParameterError.ofPair? =
        some (.missingEquals "oops") := by decide +kernel
    rw [hfault] at hcases
    have hwrong := herror.2 (.inl (by decide +kernel))
    rcases hcases with ⟨hnone, -, -⟩ |
      ⟨failure, rfl, ⟨fault, hfound, rfl⟩ | ⟨hnone, -⟩⟩
    · rw [hnone] at hwrong
      cases hwrong
    · obtain rfl := Option.some.inj hfound
      exact hrun
    · cases hnone

end CommandLine

end SchemaDocs
