import SchemaDocs.Config.Yaml
import SchemaDocs.Proofs.Wire.Depth
/-!
# Where settings come from

A configuration is what a list of settings leaves behind, where a later setting counts more than an
earlier one for the same thing.  The entries of a file and the pairs of a parameter are such lists.
-/

namespace SchemaDocs

/-! ## Settings -/

/-- A value for something that the converter is told. -/
inductive ConverterSetting where
  | command (text : String)
  | args (texts : List String)
  | timeoutSecs (word : UInt64)

/-- A value for something in a configuration. -/
inductive Setting where
  | docsHost (text : String)
  | moduleSuffix (text : String)
  | sourceFormat (text : String)
  | targetFormat (text : String)
  | converter (setting : ConverterSetting)

namespace Setting

def docsHost? : Setting → Option String
  | .docsHost text => some text
  | _ => none

def moduleSuffix? : Setting → Option String
  | .moduleSuffix text => some text
  | _ => none

def sourceFormat? : Setting → Option String
  | .sourceFormat text => some text
  | _ => none

def targetFormat? : Setting → Option String
  | .targetFormat text => some text
  | _ => none

def command? : Setting → Option String
  | .converter (.command text) => some text
  | _ => none

def args? : Setting → Option (List String)
  | .converter (.args texts) => some texts
  | _ => none

def timeoutSecs? : Setting → Option UInt64
  | .converter (.timeoutSecs word) => some word
  | _ => none

/-- The last value of some kind in a list of settings. -/
def last? {α : Type} (value? : Setting → Option α) (settings : List Setting) : Option α :=
  (settings.filterMap value?).getLast?

theorem last?_concat {α : Type} (value? : Setting → Option α) (settings : List Setting)
    (setting : Setting) :
    last? value? (settings ++ [setting]) = (value? setting).or (last? value? settings) := by
  rw [last?, List.filterMap_append, List.getLast?_append]
  cases h : value? setting <;> simp [h, last?]

theorem last?_append_of_none {α : Type} {value? : Setting → Option α} {more : List Setting}
    (h : ∀ setting ∈ more, value? setting = none) (settings : List Setting) :
    last? value? (settings ++ more) = last? value? settings := by
  rw [last?, List.filterMap_append, List.filterMap_eq_nil_iff.2 h, List.append_nil, last?]

end Setting

open Setting

/-- Each thing as the last setting for it has it, or by default. -/
def Config.settled (settings : List Setting) : Config where
  docsHost := (last? docsHost? settings).getD ({} : Config).docsHost
  moduleSuffix := (last? moduleSuffix? settings).getD ({} : Config).moduleSuffix
  sourceFormat := (last? sourceFormat? settings).getD ({} : Config).sourceFormat
  targetFormat := (last? targetFormat? settings).getD ({} : Config).targetFormat
  converter :=
    { command := (last? command? settings).getD ({} : ConverterConfig).command
      args := (last? args? settings).getD ({} : ConverterConfig).args
      timeoutSecs := (last? timeoutSecs? settings).getD ({} : ConverterConfig).timeoutSecs }

/-! ## One setting after the other -/

def ConverterConfig.put (config : ConverterConfig) : ConverterSetting → ConverterConfig
  | .command text => { config with command := text }
  | .args texts => { config with args := texts }
  | .timeoutSecs word => { config with timeoutSecs := word }

def Config.put (config : Config) : Setting → Config
  | .docsHost text => { config with docsHost := text }
  | .moduleSuffix text => { config with moduleSuffix := text }
  | .sourceFormat text => { config with sourceFormat := text }
  | .targetFormat text => { config with targetFormat := text }
  | .converter setting => { config with converter := config.converter.put setting }

namespace Config

theorem settled_concat (settings : List Setting) (setting : Setting) :
    settled (settings ++ [setting]) = (settled settings).put setting := by
  cases setting with
  | converter setting =>
      cases setting <;>
        simp [settled, last?_concat, put, ConverterConfig.put, docsHost?, moduleSuffix?,
          sourceFormat?, targetFormat?, command?, args?, timeoutSecs?]
  | _ =>
      simp [settled, last?_concat, put, docsHost?, moduleSuffix?, sourceFormat?, targetFormat?,
        command?, args?, timeoutSecs?]

/-- To put settings one after the other is to settle all of them. -/
theorem foldl_put_settled (before settings : List Setting) :
    settings.foldl put (settled before) = settled (before ++ settings) := by
  induction settings generalizing before with
  | nil => rw [List.append_nil]; rfl
  | cons setting settings ih =>
      rw [List.foldl_cons, ← settled_concat, ih, List.append_assoc, List.singleton_append]

theorem foldl_put_converter (config : Config) (settings : List ConverterSetting) :
    (settings.map Setting.converter).foldl put config =
      { config with converter := settings.foldl ConverterConfig.put config.converter } := by
  induction settings generalizing config with
  | nil => rfl
  | cons setting settings ih => rw [List.map_cons, List.foldl_cons, ih]; rfl

end Config

/-! ## Settings of a document -/

namespace Yaml

/-- What an entry is called, if that is a text. -/
def entryName? (document : Document) (entry : Node × Node) : Option String :=
  (readText "key" document entry.1).toOption

/-- What entries mean one after the other. -/
def meanings {α : Type} (document : Document) (meaning : String → Node → List α)
    (entries : List (Node × Node)) : List α :=
  entries.flatMap fun entry =>
    ((entryName? document entry).map fun name => meaning name entry.2).getD []

/-- Entries that are read as settings are put one after the other.  What the reader of a name may
count on as long as the name is new is told by `Fresh`. -/
theorem readSettings_ok {σ α : Type} {reader? : String → Option (σ → Node → Except Error σ)}
    {document : Document} (put : σ → α → σ) (meaning : String → Node → List α)
    (Fresh : List String → σ → Prop)
    (hnone : ∀ name node, reader? name = none → meaning name node = [])
    (hsome : ∀ {seen settings name reader node after}, reader? name = some reader →
      name ∉ seen → Fresh seen settings → reader settings node = .ok after →
      after = (meaning name node).foldl put settings ∧ Fresh (name :: seen) after)
    {seen : List String} {settings after : σ} (hfresh : Fresh seen settings)
    {entries : List (Node × Node)}
    (h : readSettings reader? document seen settings entries = .ok after) :
    after = (meanings document meaning entries).foldl put settings := by
  induction entries generalizing seen settings with
  | nil =>
      rw [readSettings, Except.ok.injEq] at h
      exact h.symm
  | cons entry entries ih =>
      obtain ⟨key, node⟩ := entry
      rw [readSettings] at h
      obtain ⟨name, hname, h⟩ := Wire.exists_of_bind_ok h
      have hentry : entryName? document (key, node) = some name := by
        rw [entryName?, hname]
        rfl
      rw [meanings, List.flatMap_cons, List.foldl_append, hentry, Option.map_some,
        Option.getD_some]
      cases hreader : reader? name with
      | none =>
          rw [hreader] at h
          rw [hnone name node hreader]
          exact ih hfresh h
      | some reader =>
          rw [hreader] at h
          dsimp only at h
          split at h
          · simp at h
          · rename_i hseen
            rw [List.contains_iff_mem] at hseen
            obtain ⟨next, hnext, h⟩ := Wire.exists_of_bind_ok h
            obtain ⟨rfl, hfresh⟩ := hsome hreader hseen hfresh hnext
            exact ih hfresh h

/-- A reader that reads a value and then updates the settings. -/
theorem exists_of_reader {σ α : Type} {reader : σ → Node → Except Error σ}
    {read : Node → Except Error α} {update : σ → α → σ}
    (hreader : (fun settings node => read node >>= fun value => .ok (update settings value)) =
      reader) {settings after : σ} {node : Node} (h : reader settings node = .ok after) :
    ∃ value, read node = .ok value ∧ update settings value = after := by
  rw [← hreader] at h
  obtain ⟨value, hread, hafter⟩ := Wire.exists_of_bind_ok h
  exact ⟨value, hread, Except.ok.inj hafter⟩

end Yaml

open Yaml

/-- The settings of the converter under a name. -/
def ConverterSetting.under (document : Document) (name : String) (node : Node) :
    List ConverterSetting :=
  match name with
  | "command" => ((readText name document node).toOption.map command).toList
  | "args" => ((readTexts name document node).toOption.map args).toList
  | "timeout_secs" => ((readWord name document node).toOption.map timeoutSecs).toList
  | _ => []

/-- The settings of the converter in a mapping. -/
def ConverterSetting.ofNode (document : Document) (node : Node) : List ConverterSetting :=
  meanings document (under document) ((readEntries "converter" document node).toOption.getD [])

/-- The settings under a name. -/
def Setting.under (document : Document) (name : String) (node : Node) : List Setting :=
  match name with
  | "docs_host" => ((readText name document node).toOption.map docsHost).toList
  | "module_suffix" => ((readText name document node).toOption.map moduleSuffix).toList
  | "source_format" => ((readText name document node).toOption.map sourceFormat).toList
  | "target_format" => ((readText name document node).toOption.map targetFormat).toList
  | "converter" => (ConverterSetting.ofNode document node).map converter
  | _ => []

/-- The settings in a document. -/
def Setting.ofDocument (document : Document) : List Setting :=
  meanings document (under document)
    ((readEntries "configuration" document document.root).toOption.getD [])

/-- The settings in a text. -/
def Setting.ofText (text : String) : List Setting :=
  if Text.allBlank text.toList then []
  else
    match Yaml.tokens text.toList >>= documentOfTokens? with
    | .ok (some document) => ofDocument document
    | _ => []

/-- The settings in the bytes of a file. -/
def Setting.ofFileBytes (bytes : Bytes) : List Setting :=
  ((Text.ofUtf8? bytes).map ofText).getD []

namespace ConverterConfig

theorem under_of_reader?_eq_none {document : Document} {name : String} {node : Node}
    (h : reader? document name = none) : ConverterSetting.under document name node = [] := by
  rw [reader?.eq_def] at h
  split at h
  · simp at h
  · simp at h
  · simp at h
  · rw [ConverterSetting.under]
    all_goals assumption

theorem reader?_ok {document : Document} {name : String}
    {reader : ConverterConfig → Node → Except Yaml.Error ConverterConfig}
    (hreader : reader? document name = some reader) {config after : ConverterConfig} {node : Node}
    (h : reader config node = .ok after) :
    after = (ConverterSetting.under document name node).foldl put config := by
  rw [reader?.eq_def] at hreader
  split at hreader
  · obtain ⟨text, hread, rfl⟩ := exists_of_reader (Option.some.inj hreader) h
    simp [ConverterSetting.under, hread, Except.toOption, put]
  · obtain ⟨texts, hread, rfl⟩ := exists_of_reader (Option.some.inj hreader) h
    simp [ConverterSetting.under, hread, Except.toOption, put]
  · obtain ⟨word, hread, rfl⟩ := exists_of_reader (Option.some.inj hreader) h
    simp [ConverterSetting.under, hread, Except.toOption, put]
  · simp at hreader

theorem ofNode_ok {document : Document} {node : Node} {after : ConverterConfig}
    (h : ofNode document node = .ok after) :
    after = (ConverterSetting.ofNode document node).foldl put {} := by
  obtain ⟨entries, hentries, h⟩ := Wire.exists_of_bind_ok h
  rw [ConverterSetting.ofNode, hentries]
  refine readSettings_ok put (ConverterSetting.under document) (fun _ _ => True)
    (fun _ _ => under_of_reader?_eq_none) ?_ trivial h
  intro seen config name reader node after hreader _ _ hafter
  exact ⟨reader?_ok hreader hafter, trivial⟩

end ConverterConfig

namespace Config

/-- Whether the converter is still as it is by default, unless it was told something already. -/
def ConverterFresh (seen : List String) (config : Config) : Prop :=
  "converter" ∉ seen → config.converter = {}

theorem reader?_ok {document : Document} {name : String}
    {reader : Config → Node → Except Yaml.Error Config}
    (hreader : reader? document name = some reader) {seen : List String} {config after : Config}
    {node : Node} (hseen : name ∉ seen) (hfresh : ConverterFresh seen config)
    (h : reader config node = .ok after) :
    after = (Setting.under document name node).foldl put config ∧
      ConverterFresh (name :: seen) after := by
  have hkeeps : after.converter = config.converter → ConverterFresh (name :: seen) after :=
    fun hconverter hnew =>
      hconverter.trans (hfresh fun hmem => hnew (List.mem_cons_of_mem name hmem))
  rw [reader?.eq_def] at hreader
  split at hreader
  · obtain ⟨text, hread, rfl⟩ := exists_of_reader (Option.some.inj hreader) h
    exact ⟨by simp [Setting.under, hread, Except.toOption, put], hkeeps rfl⟩
  · obtain ⟨text, hread, rfl⟩ := exists_of_reader (Option.some.inj hreader) h
    exact ⟨by simp [Setting.under, hread, Except.toOption, put], hkeeps rfl⟩
  · obtain ⟨text, hread, rfl⟩ := exists_of_reader (Option.some.inj hreader) h
    exact ⟨by simp [Setting.under, hread, Except.toOption, put], hkeeps rfl⟩
  · obtain ⟨text, hread, rfl⟩ := exists_of_reader (Option.some.inj hreader) h
    exact ⟨by simp [Setting.under, hread, Except.toOption, put], hkeeps rfl⟩
  · obtain ⟨converter, hread, rfl⟩ := exists_of_reader (Option.some.inj hreader) h
    -- the converter is read over its default, which it still has here
    have hconverter := ConverterConfig.ofNode_ok hread
    rw [← hfresh hseen] at hconverter
    refine ⟨?_, fun hnew => absurd List.mem_cons_self hnew⟩
    rw [hconverter]
    exact (foldl_put_converter config (ConverterSetting.ofNode document node)).symm
  · simp at hreader

theorem under_of_reader?_eq_none {document : Document} {name : String} {node : Node}
    (h : reader? document name = none) : Setting.under document name node = [] := by
  rw [reader?.eq_def] at h
  split at h
  · simp at h
  · simp at h
  · simp at h
  · simp at h
  · simp at h
  · rw [Setting.under]
    all_goals assumption

theorem ofDocument_ok {document : Document} {config : Config}
    (h : ofDocument document = .ok config) : config = settled (Setting.ofDocument document) := by
  obtain ⟨entries, hentries, h⟩ := Wire.exists_of_bind_ok h
  have hread := readSettings_ok put (Setting.under document) ConverterFresh
    (fun _ _ => under_of_reader?_eq_none)
    (fun hreader hseen hfresh hafter => reader?_ok hreader hseen hfresh hafter) (fun _ => rfl) h
  rw [hread, Setting.ofDocument, hentries]
  exact foldl_put_settled [] _

theorem ofYaml_ok {text : String} {config : Config} (h : ofYaml text = .ok config) :
    config = settled (Setting.ofText text) := by
  rw [ofYaml] at h
  rw [Setting.ofText]
  by_cases hblank : Text.allBlank text.toList
  · rw [if_pos hblank, Except.ok.injEq] at h
    rw [if_pos hblank, ← h]
    rfl
  · rw [if_neg hblank] at h ⊢
    obtain ⟨tokens, htokens, h⟩ := Wire.exists_of_bind_ok h
    obtain ⟨document?, hdocument, h⟩ := Wire.exists_of_bind_ok h
    have hboth : Yaml.tokens text.toList >>= documentOfTokens? = .ok document? := by
      rw [htokens]
      exact hdocument
    rw [hboth]
    cases document? with
    | none => exact (Except.ok.inj h).symm
    | some document => exact ofDocument_ok h

theorem ofFileBytes_ok {path : String} {bytes : Bytes} {config : Config}
    (h : ofFileBytes path bytes = .ok config) : config = settled (Setting.ofFileBytes bytes) := by
  rw [ofFileBytes] at h
  rw [Setting.ofFileBytes]
  cases htext : Text.ofUtf8? bytes with
  | none => simp [htext] at h
  | some text =>
      rw [htext] at h
      dsimp only at h
      split at h
      · simp at h
      · rename_i read hyaml
        rw [← Except.ok.inj h]
        exact ofYaml_ok hyaml

end Config

/-! ## Settings of a parameter -/

/-- The keys of a parameter. -/
def parameterKeys : List String :=
  ["docs_host", "module_suffix", "source_format", "target_format", "pandoc"]

/-- What stands before the first equals sign of a pair. -/
def pairKey (pair : List Char) : String := String.ofList (Text.trim (pair.takeWhile (· != '=')))

/-- What stands behind the first equals sign of a pair. -/
def pairValue (pair : List Char) : String :=
  String.ofList (Text.trim (pair.dropWhile (· != '=')).tail)

/-- What is wrong with a pair. -/
def ParameterError.ofPair? (pair : List Char) : Option ParameterError :=
  if '=' ∉ pair then some (.missingEquals (String.ofList pair))
  else if pairKey pair ∉ parameterKeys then some (.unknownKey (pairKey pair))
  else none

/-- The setting of a key. -/
def Setting.ofKey? (key value : String) : Option Setting :=
  match key with
  | "docs_host" => some (.docsHost (Text.onChars Config.dropSlashes value))
  | "module_suffix" => some (.moduleSuffix value)
  | "source_format" => some (.sourceFormat value)
  | "target_format" => some (.targetFormat value)
  | "pandoc" => some (.converter (.command value))
  | _ => none

/-- The setting of a pair. -/
def Setting.ofPair? (pair : List Char) : Option Setting :=
  if '=' ∈ pair then ofKey? (pairKey pair) (pairValue pair) else none

/-- No pair sets anything of the converter but its command. -/
theorem Setting.commandOnly_of_ofPair? {pair : List Char} {setting : Setting}
    (h : ofPair? pair = some setting) : setting.args? = none ∧ setting.timeoutSecs? = none := by
  rw [ofPair?] at h
  split at h
  · rw [ofKey?.eq_def] at h
    split at h <;> cases h <;> exact ⟨rfl, rfl⟩
  · cases h

theorem Text.cutAt?_eq (mark : Char) (s : List Char) :
    Text.cutAt? mark s =
      if mark ∈ s then some (s.takeWhile (· != mark), (s.dropWhile (· != mark)).tail) else none := by
  induction s with
  | nil => rfl
  | cons c s ih =>
      by_cases hmark : c = mark
      · simp [cutAt?, hmark]
      · simp [cutAt?, hmark, Ne.symm hmark, ih, apply_ite]

namespace Config

theorem set_of_mem {key : String} (h : key ∈ parameterKeys) (config : Config) (value : String) :
    ∃ setting, Setting.ofKey? key value = some setting ∧
      config.set key value = .ok (config.put setting) := by
  simp only [parameterKeys, List.mem_cons, List.not_mem_nil, or_false] at h
  rcases h with rfl | rfl | rfl | rfl | rfl <;> exact ⟨_, rfl, rfl⟩

theorem set_of_not_mem {key : String} (h : key ∉ parameterKeys) (config : Config)
    (value : String) : config.set key value = .error (.unknownKey key) := by
  simp only [parameterKeys, List.mem_cons, List.not_mem_nil, or_false, not_or] at h
  simp [set, h]

theorem applyPair_of_fault {pair : List Char} {fault : ParameterError}
    (h : ParameterError.ofPair? pair = some fault) (config : Config) :
    config.applyPair pair = .error fault := by
  rw [ParameterError.ofPair?] at h
  rw [applyPair, Text.cutAt?_eq]
  split at h
  · rename_i hmark
    rw [if_neg hmark]
    exact congrArg Except.error (Option.some.inj h)
  · rename_i hmark
    rw [if_pos (Decidable.not_not.1 hmark)]
    split at h
    · rename_i hkey
      rw [← Option.some.inj h]
      exact set_of_not_mem hkey config _
    · simp at h

theorem applyPair_of_good {pair : List Char} (h : ParameterError.ofPair? pair = none)
    (config : Config) : ∃ setting, Setting.ofPair? pair = some setting ∧
      config.applyPair pair = .ok (config.put setting) := by
  rw [ParameterError.ofPair?] at h
  rw [applyPair, Text.cutAt?_eq, Setting.ofPair?]
  split at h
  · simp at h
  · rename_i hmark
    rw [if_pos (Decidable.not_not.1 hmark), if_pos (Decidable.not_not.1 hmark)]
    split at h
    · simp at h
    · rename_i hkey
      exact set_of_mem (Decidable.not_not.1 hkey) config _

/-- Pairs with nothing wrong in them are put one after the other. -/
theorem applyPairs_of_good {pairs : List (List Char)}
    (h : ∀ pair ∈ pairs, ParameterError.ofPair? pair = none) (config : Config) :
    config.applyPairs pairs = (.ok (), (pairs.filterMap Setting.ofPair?).foldl put config) := by
  induction pairs generalizing config with
  | nil => rfl
  | cons pair pairs ih =>
      rw [List.forall_mem_cons] at h
      obtain ⟨setting, hsetting, happly⟩ := applyPair_of_good h.1 config
      rw [applyPairs, happly, List.filterMap_cons_some hsetting]
      exact ih h.2 (config.put setting)

/-- The first pair with something wrong in it decides. -/
theorem applyPairs_of_fault {pairs : List (List Char)} {fault : ParameterError}
    (h : pairs.findSome? ParameterError.ofPair? = some fault) (config : Config) :
    (config.applyPairs pairs).1 = .error fault := by
  induction pairs generalizing config with
  | nil => simp at h
  | cons pair pairs ih =>
      rw [applyPairs]
      cases hpair : ParameterError.ofPair? pair with
      | some own =>
          rw [List.findSome?_cons, hpair, Option.some.injEq] at h
          rw [applyPair_of_fault hpair, h]
      | none =>
          rw [List.findSome?_cons, hpair] at h
          obtain ⟨setting, -, happly⟩ := applyPair_of_good hpair config
          rw [happly]
          exact ih h (config.put setting)

end Config

end SchemaDocs
