import Supervision.Proofs.Decoding

/-!
# Loading by stages

`Loads` says what comes of loading, stage by stage: read the file, read its document, overlay the
environment, validate. Each stage has one rule for its failure, which asks that the stages before it
have gone well. What a file and a document give is said by rules as well, `Reads` and `Decodes`: a
file has a text if its bytes are those of one, and a document that follows the grammar is decoded as
`ofDocument_decodes` says. `loadWith_iff_loads` says that this is what is loaded, and what follows
from the order of the stages: a setting of the file that the environment replaces is of no
consequence, and the value that replaces it is validated like any other.
-/

namespace Supervision

/-! ## The environment -/

namespace Environment

variable {env : Environment} {name : String}

/-- The bytes of a variable, where it is set. -/
def bytes? (env : Environment) (name : String) : Option ByteArray :=
  (env.findSome? (entryValue? name)).map fun value => ⟨value.toArray⟩

/-- A variable is not set, or not to a text. -/
def Lacks (env : Environment) (name : String) : Prop :=
  ∀ bytes, env.bytes? name = some bytes → ¬bytes.IsValidUTF8

/-- No text is read from bytes that are not UTF-8, and from those only. -/
lemma fromUTF8?_eq_none_iff {bytes : ByteArray} :
    String.fromUTF8? bytes = none ↔ ¬bytes.IsValidUTF8 := by
  rw [String.fromUTF8?]
  split
  next valid => simp [valid]
  next invalid => simp [invalid]

/-- A variable has no text if it is lacking, and only then. -/
lemma text?_eq_none_iff : env.text? name = none ↔ env.Lacks name := by
  have same : env.text? name = (env.bytes? name).bind String.fromUTF8? := by
    rw [text?, bytes?, Option.bind_map]
    rfl
  rw [same, Option.bind_eq_none_iff]
  exact forall₂_congr fun bytes _ => fromUTF8?_eq_none_iff

end Environment

namespace Config
open Net

variable {text? : String → Option String} {stem : String} {c c' : Config}

/-- The configuration with every setting replaced for which the environment has a value. -/
def under (text? : String → Option String) (stem : String) (c : Config) : Config where
  http := { c.http with port := (text? (variableName stem "HTTP_PORT")).getD c.http.port }
  grpc := { c.grpc with port := (text? (variableName stem "GRPC_PORT")).getD c.grpc.port }
  shutdown.timeoutMs :=
    ((text? (variableName stem "SHUTDOWN_TIMEOUT_MS")).bind timeout?).getD c.shutdown.timeoutMs
  observability :=
    { c.observability with
      logLevel := (text? (variableName stem "LOG_LEVEL")).getD c.observability.logLevel }

/-- The timeout of the environment is no number of milliseconds. -/
structure Misset (text? : String → Option String) (stem : String) (e : OverlayError) : Prop where
  name : e.name = variableName stem "SHUTDOWN_TIMEOUT_MS"
  set : text? e.name = some e.value
  unreadable : timeout? e.value = none

/-- The timeout is misset in one way only. -/
lemma Misset.unique {e e' : OverlayError} (misset : Misset text? stem e)
    (misset' : Misset text? stem e') : e = e' := by
  have names : e.name = e'.name := misset.name.trans misset'.name.symm
  have values : some e.value = some e'.value := by
    rw [← misset.set, ← misset'.set, names]
  cases e
  cases e'
  cases names
  cases values
  rfl

/-- Either the timeout of the environment is no number, or its settings replace those given. -/
lemma overlaid_cases (text? : String → Option String) (stem : String) (c : Config) :
    (∃ e, Misset text? stem e ∧ overlaid text? stem c = .error (.environment e)) ∨
      (∀ e, ¬Misset text? stem e) ∧ overlaid text? stem c = .ok (c.under text? stem) := by
  cases set : text? (variableName stem "SHUTDOWN_TIMEOUT_MS") with
  | none =>
    right
    refine ⟨fun e misset => ?_, ?_⟩
    · rw [← misset.name, misset.set] at set
      cases set
    · simp [overlaid, overlay, overlayTexts, under, set]
  | some value =>
    cases read : timeout? value with
    | none =>
      left
      refine ⟨⟨variableName stem "SHUTDOWN_TIMEOUT_MS", value⟩, ⟨rfl, set, read⟩, ?_⟩
      simp only [overlaid, overlay, set, read]
    | some ms =>
      right
      refine ⟨fun e misset => ?_, ?_⟩
      · rw [← misset.name, misset.set] at set
        cases set
        cases read.symm.trans misset.unreadable
      · simp [overlaid, overlay, overlayTexts, under, set, read]

/-- Two configurations differ only in settings that the environment replaces. -/
structure SameBut (text? : String → Option String) (stem : String) (c c' : Config) : Prop where
  httpPort : text? (variableName stem "HTTP_PORT") = none → c.http.port = c'.http.port
  grpcPort : text? (variableName stem "GRPC_PORT") = none → c.grpc.port = c'.grpc.port
  logLevel : text? (variableName stem "LOG_LEVEL") = none →
    c.observability.logLevel = c'.observability.logLevel
  timeoutMs : (text? (variableName stem "SHUTDOWN_TIMEOUT_MS")).bind timeout? = none →
    c.shutdown.timeoutMs = c'.shutdown.timeoutMs
  http : { c.http with port := "" } = { c'.http with port := "" }
  grpc : { c.grpc with port := "" } = { c'.grpc with port := "" }
  observability : { c.observability with logLevel := "" } = { c'.observability with logLevel := "" }

/-- What is replaced is of no consequence. -/
lemma SameBut.under_eq (same : SameBut text? stem c c') :
    c.under text? stem = c'.under text? stem := by
  have replaced {α : Type} {new : Option α} {a a' : α} (kept : new = none → a = a') :
      new.getD a = new.getD a' := by
    cases new with
    | none => exact kept rfl
    | some _ => rfl
  obtain ⟨httpPort, grpcPort, logLevel, timeoutMs, http, grpc, observability⟩ := same
  simp only [HttpConfig.mk.injEq, GrpcConfig.mk.injEq, ObservabilityConfig.mk.injEq, true_and]
    at http grpc observability
  simp only [under, Config.mk.injEq, HttpConfig.mk.injEq, GrpcConfig.mk.injEq,
    ShutdownConfig.mk.injEq, ObservabilityConfig.mk.injEq]
  exact ⟨⟨http.1, replaced httpPort, http.2⟩, ⟨grpc.1, replaced grpcPort, grpc.2⟩,
    replaced timeoutMs, replaced logLevel, observability⟩

/-! ## The stages -/

/-- What comes of reading a file. It has a text if its bytes are those of one. -/
inductive Reads : FileContent → Except FileError String → Prop where
  | missing :
    Reads .missing (.error .notFound)
  | directory :
    Reads .directory (.error .isDirectory)
  | unreadable {reason} :
    Reads (.unreadable reason) (.error (.other reason))
  | notText {bytes} :
    ¬bytes.IsValidUTF8 →
    Reads (.bytes bytes) (.error .notText)
  | text {text : String} :
    Reads (.bytes text.toUTF8) (.ok text)

/-- What comes of reading a document. It does not follow the grammar, something in it does not fit,
or it tells a configuration. -/
inductive Decodes : String → Except DocumentError Config → Prop where
  | ungrammatical {text} :
    Toml.read? text = none →
    Decodes text (.error .syntaxFault)
  | misfit {text doc m} :
    Toml.read? text = some doc →
    firstMisfit? (places doc) = some m →
    Decodes text (.error (.mismatch m))
  | told {text doc c} :
    Toml.read? text = some doc →
    firstMisfit? (places doc) = none →
    AsTold doc c →
    Decodes text (.ok c)

/-- What comes of reading a file and its document. Where no file is given, it is the defaults. -/
inductive Parses : Option FileContent → Except LoadError Config → Prop where
  | defaults :
    Parses none (.ok {})
  | unreadable {content e} :
    Reads content (.error e) →
    Parses (some content) (.error (.file e))
  | unfit {content text e} :
    Reads content (.ok text) →
    Decodes text (.error e) →
    Parses (some content) (.error (.document e))
  | parsed {content text c} :
    Reads content (.ok text) →
    Decodes text (.ok c) →
    Parses (some content) (.ok c)

/-- What comes of loading a configuration. -/
inductive Loads (text? : String → Option String) (stem : String) (content? : Option FileContent) :
    Except LoadError Config → Prop where
  | unparsed {e} :
    Parses content? (.error e) →
    Loads text? stem content? (.error e)
  | misset {c : Config} {e} :
    Parses content? (.ok c) →
    Misset text? stem e →
    Loads text? stem content? (.error (.environment e))
  | invalid {c : Config} {fault others} :
    Parses content? (.ok c) →
    (∀ e, ¬Misset text? stem e) →
    faults (c.under text? stem) = fault :: others →
    Loads text? stem content? (.error (.invalid ⟨fault, others⟩))
  | loaded {c : Config} :
    Parses content? (.ok c) →
    (∀ e, ¬Misset text? stem e) →
    faults (c.under text? stem) = [] →
    Loads text? stem content? (.ok (c.under text? stem))

variable {content : FileContent} {content? : Option FileContent} {r r' : Except LoadError Config}

/-- The bytes of a text are read as this text. -/
lemma fromUTF8?_toUTF8 {text : String} : String.fromUTF8? text.toUTF8 = some text := by
  rw [String.fromUTF8?, String.toUTF8_eq_toByteArray, dif_pos text.isValidUTF8]
  rfl

/-- Bytes that are read as a text are those of this text. -/
lemma toUTF8_of_fromUTF8? {bytes : ByteArray} {text : String}
    (read : String.fromUTF8? bytes = some text) : text.toUTF8 = bytes := by
  rw [String.fromUTF8?] at read
  split at read
  next valid =>
    cases read
    rfl
  next => cases read

/-- The text of a file is what the rules say. -/
lemma readText_eq_iff {r : Except FileError String} : readText content = r ↔ Reads content r := by
  constructor
  · rintro rfl
    cases content with
    | missing => exact .missing
    | directory => exact .directory
    | unreadable reason => exact .unreadable
    | bytes bytes =>
      rw [readText]
      cases read : String.fromUTF8? bytes with
      | none => exact .notText (Environment.fromUTF8?_eq_none_iff.1 read)
      | some text =>
        obtain rfl := toUTF8_of_fromUTF8? read
        exact .text
  · intro reads
    cases reads with
    | missing => rfl
    | directory => rfl
    | unreadable => rfl
    | notText invalid => rw [readText, Environment.fromUTF8?_eq_none_iff.2 invalid]
    | text => rw [readText, fromUTF8?_toUTF8]

/-- The configuration of a document is what the rules say. -/
lemma readDocument_eq_iff {text : String} {r : Except DocumentError Config} :
    readDocument text = r ↔ Decodes text r := by
  cases read : Toml.read? text with
  | none =>
    rw [readDocument, read]
    constructor
    · rintro rfl
      exact .ungrammatical read
    · intro decodes
      cases decodes with
      | ungrammatical => rfl
      | misfit read' => cases read.symm.trans read'
      | told read' => cases read.symm.trans read'
  | some doc =>
    -- a document that was read has no key twice, which all of decoding rests on
    have distinct : (Toml.Value.table doc).Distinct := Toml.distinct_of_read? read
    have same : readDocument text = (ofDocument doc).mapError .mismatch := by
      rw [readDocument, read]
    rw [same]
    constructor
    · rintro rfl
      cases decoded : ofDocument doc with
      | error m => exact .misfit read ((yields_ofDocument distinct).error_iff.1 decoded)
      | ok c =>
        obtain ⟨fits, told⟩ := (ofDocument_eq_ok_iff distinct).1 decoded
        exact .told read fits told
    · intro decodes
      cases decodes with
      | ungrammatical read' => cases read.symm.trans read'
      | misfit read' misfit =>
        cases read.symm.trans read'
        rw [(yields_ofDocument distinct).error_iff.2 misfit]
        rfl
      | told read' fits told =>
        cases read.symm.trans read'
        rw [(ofDocument_eq_ok_iff distinct).2 ⟨fits, told⟩]
        rfl

/-- What is read from a file is what comes of parsing it. -/
lemma parses_readFile : Parses (some content) (readFile content) := by
  cases read : readText content with
  | error e =>
    have failed : readFile content = .error (.file e) := by
      rw [readFile, read]
      rfl
    rw [failed]
    exact .unreadable (readText_eq_iff.1 read)
  | ok text =>
    have same : readFile content = (readDocument text).mapError .document := by
      rw [readFile, read]
      rfl
    rw [same]
    cases fits : readDocument text with
    | error e => exact .unfit (readText_eq_iff.1 read) (readDocument_eq_iff.1 fits)
    | ok c => exact .parsed (readText_eq_iff.1 read) (readDocument_eq_iff.1 fits)

/-- If a configuration is read from a file, it comes of parsing it. -/
lemma parses_of_toOption (read : (readFile content).toOption = some c) :
    Parses (some content) (.ok c) := by
  have parses : Parses (some content) (readFile content) := parses_readFile
  rw [eq_ok_of_toOption read] at parses
  exact parses

/-- Something comes of parsing any file. -/
lemma exists_parses (content? : Option FileContent) : ∃ r, Parses content? r := by
  cases content? with
  | none => exact ⟨_, .defaults⟩
  | some content => exact ⟨_, parses_readFile⟩

/-- What comes of parsing a file is what is read from it. -/
lemma Parses.eq_readFile (parses : Parses (some content) r) : r = readFile content := by
  cases parses with
  | unreadable reads =>
    rw [readFile, readText_eq_iff.2 reads]
    rfl
  | unfit reads decodes =>
    rw [readFile, readText_eq_iff.2 reads]
    show _ = (readDocument _).mapError LoadError.document
    rw [readDocument_eq_iff.2 decodes]
    rfl
  | parsed reads decodes =>
    rw [readFile, readText_eq_iff.2 reads]
    show _ = (readDocument _).mapError LoadError.document
    rw [readDocument_eq_iff.2 decodes]
    rfl

/-- A file is loaded if it is parsed and the configuration is valid. -/
lemma load_of_parses (parses : Parses (some content) r) : load content = r >>= validated := by
  rw [parses.eq_readFile]
  rfl

/-- A file is loaded with an environment if it is parsed, put under it, and the configuration is
valid. -/
lemma loadWith_of_parses (parses : Parses content? r) :
    loadWith content? text? stem = r >>= fun c => overlaid text? stem c >>= validated := by
  cases content? with
  | none =>
    cases parses
    rfl
  | some content =>
    rw [parses.eq_readFile]
    rfl

/-- Once a file is parsed, it is the environment and the rules that matter. -/
lemma loadWith_of_parsed (parses : Parses content? (.ok c)) :
    loadWith content? text? stem = overlaid text? stem c >>= validated := by
  rw [loadWith_of_parses parses]
  exact pure_bind c fun c => overlaid text? stem c >>= validated

/-- Without faults, a configuration is valid. -/
lemma validated_of_nil (none : faults c = []) : validated c = .ok c := by
  simp [validated, none, Errors.ofList?]

/-- With faults, validation fails with all of them. -/
lemma validated_of_cons {fault : Fault} {others : List Fault} (some : faults c = fault :: others) :
    validated c = .error (.invalid ⟨fault, others⟩) := by
  simp [validated, some, Errors.ofList?]

/-- What is validated breaks no rule. -/
lemma faults_of_validated (valid : validated c = .ok c') : faults c' = [] := by
  cases some : faults c with
  | nil =>
    cases (validated_of_nil some).symm.trans valid
    exact some
  | cons fault others => cases (validated_of_cons some).symm.trans valid

/-- A timeout that is misset is the error of the environment. -/
lemma overlaid_of_misset {e : OverlayError} (misset : Misset text? stem e) :
    overlaid text? stem c = .error (.environment e) := by
  rcases overlaid_cases text? stem c with ⟨e', misset', failed⟩ | ⟨readable, -⟩
  · rw [failed, misset'.unique misset]
  · exact absurd misset (readable e)

/-- If the timeout is not misset, the configuration is put under the environment. -/
lemma overlaid_of_not_misset (readable : ∀ e, ¬Misset text? stem e) :
    overlaid text? stem c = .ok (c.under text? stem) := by
  rcases overlaid_cases text? stem c with ⟨e, misset, -⟩ | ⟨-, replaced⟩
  · exact absurd misset (readable e)
  · exact replaced

/-- What comes of loading is what is loaded. -/
lemma Loads.eq_loadWith (loads : Loads text? stem content? r) :
    loadWith content? text? stem = r := by
  cases loads with
  | unparsed parses =>
    rw [loadWith_of_parses parses]
    rfl
  | misset parses misset =>
    rw [loadWith_of_parsed parses, overlaid_of_misset misset]
    rfl
  | invalid parses readable some =>
    rw [loadWith_of_parsed parses, overlaid_of_not_misset readable]
    exact (pure_bind _ validated).trans (validated_of_cons some)
  | loaded parses readable none =>
    rw [loadWith_of_parsed parses, overlaid_of_not_misset readable]
    exact (pure_bind _ validated).trans (validated_of_nil none)

/-- Something comes of loading any file under any environment. -/
lemma exists_loads (text? : String → Option String) (stem : String)
    (content? : Option FileContent) : ∃ r, Loads text? stem content? r := by
  obtain ⟨r, parses⟩ := exists_parses content?
  cases r with
  | error e => exact ⟨_, .unparsed parses⟩
  | ok c =>
    by_cases readable : ∀ e, ¬Misset text? stem e
    · cases some : faults (c.under text? stem) with
      | nil => exact ⟨_, .loaded parses readable some⟩
      | cons fault others => exact ⟨_, .invalid parses readable some⟩
    · simp only [Classical.not_forall, Classical.not_not] at readable
      obtain ⟨e, misset⟩ := readable
      exact ⟨_, .misset parses misset⟩

/-- What is loaded comes of loading. -/
lemma loads_loadWith : Loads text? stem content? (loadWith content? text? stem) := by
  obtain ⟨r, loads⟩ := exists_loads text? stem content?
  rw [loads.eq_loadWith]
  exact loads

/-- What is loaded is what comes of loading, and nothing else. -/
lemma loadWith_eq_iff : loadWith content? text? stem = r ↔ Loads text? stem content? r :=
  ⟨fun same => same ▸ loads_loadWith, Loads.eq_loadWith⟩

/-! ## What is loaded -/

/-- A value of a variable breaks the rule of its setting. -/
inductive Breaks : (suffix value : String) → Fault → Prop where
  | httpPort {value} :
    specPort? (normalizePort value defaultPort) = none →
    Breaks "HTTP_PORT" value (.httpPort value)
  | grpcPort {value} :
    specPort? (normalizePort value defaultGrpcPort) = none →
    Breaks "GRPC_PORT" value (.grpcPort value)
  | logLevel {value} :
    value.toLower ∉ levelNames →
    Breaks "LOG_LEVEL" value (.logLevel value)
  | timeoutMs {value} :
    timeout? value = some 0 →
    Breaks "SHUTDOWN_TIMEOUT_MS" value .noStopTime

/-- What the environment sets is validated in place of what it replaces. -/
lemma Breaks.mem_faults {suffix value : String} {fault : Fault}
    (set : text? (variableName stem suffix) = some value) (breaks : Breaks suffix value fault) :
    fault ∈ faults (c.under text? stem) := by
  cases breaks with
  | httpPort no => simp [faults, faultIf, under, httpPort?, set, no]
  | grpcPort no => simp [faults, faultIf, under, grpcPort?, set, no]
  | logLevel no => simp [faults, faultIf, under, set, no]
  | timeoutMs zero => simp [faults, faultIf, under, set, zero]

/-- An environment that lacks all variables changes nothing. -/
lemma overlaid_of_lacks (unset : ∀ name ∈ variableNames stem, text? name = none) :
    overlaid text? stem c = .ok c := by
  have http : text? (variableName stem "HTTP_PORT") = none := unset _ (by simp [variableNames])
  have grpc : text? (variableName stem "GRPC_PORT") = none := unset _ (by simp [variableNames])
  have level : text? (variableName stem "LOG_LEVEL") = none := unset _ (by simp [variableNames])
  have timeout : text? (variableName stem "SHUTDOWN_TIMEOUT_MS") = none :=
    unset _ (by simp [variableNames])
  simp [overlaid, overlay, overlayTexts, http, grpc, level, timeout]

/-- Nothing is loaded that breaks a rule. -/
lemma faults_of_load (loaded : load content = .ok c) : faults c = [] := by
  have parses : Parses (some content) (readFile content) := parses_readFile
  rw [load_of_parses parses] at loaded
  cases read : readFile content with
  | error e =>
    rw [read] at loaded
    cases loaded
  | ok c' =>
    rw [read] at loaded
    exact faults_of_validated ((pure_bind c' validated).symm.trans loaded)

/-- A configuration that was loaded has no faults. -/
lemma faults_of_loadWith (loaded : loadWith content? text? stem = .ok c) : faults c = [] := by
  have loads : Loads text? stem content? (.ok c) := loaded ▸ loads_loadWith
  cases loads with
  | loaded parses readable none => exact none

/-- A setting of the file that the environment replaces has no influence. -/
lemma loadWith_sameBut {content content' : Option FileContent} (parses : Parses content (.ok c))
    (parses' : Parses content' (.ok c')) (same : SameBut text? stem c c') :
    loadWith content text? stem = loadWith content' text? stem := by
  rw [loadWith_of_parsed parses, loadWith_of_parsed parses']
  by_cases readable : ∀ e, ¬Misset text? stem e
  · rw [overlaid_of_not_misset readable, overlaid_of_not_misset readable, same.under_eq]
  · simp only [Classical.not_forall, Classical.not_not] at readable
    obtain ⟨e, misset⟩ := readable
    rw [overlaid_of_misset misset, overlaid_of_misset misset]

/-- A value of the environment that breaks a rule is rejected whatever it replaces. -/
lemma loadWith_breaks {suffix value : String} {fault : Fault} (parses : Parses content? (.ok c))
    (readable : ∀ e, ¬Misset text? stem e) (set : text? (variableName stem suffix) = some value)
    (breaks : Breaks suffix value fault) :
    ∃ es, loadWith content? text? stem = .error (.invalid es) ∧ fault ∈ es.toList := by
  have broken : fault ∈ faults (c.under text? stem) := breaks.mem_faults set
  cases some : faults (c.under text? stem) with
  | nil =>
    rw [some] at broken
    cases broken
  | cons first others =>
    refine ⟨⟨first, others⟩, (Loads.invalid parses readable some).eq_loadWith, ?_⟩
    rw [some] at broken
    exact broken

/-- Under an environment that lacks all variables, a file is loaded as it is. -/
lemma loadWith_of_lacks (unset : ∀ name ∈ variableNames stem, text? name = none) :
    loadWith (some content) text? stem = load content := by
  have parses : Parses (some content) (readFile content) := parses_readFile
  cases read : readFile content with
  | error e =>
    rw [read] at parses
    have failed : loadWith (some content) text? stem = .error e := loadWith_of_parses parses
    rw [failed, load_of_parses parses]
    rfl
  | ok c =>
    rw [read] at parses
    rw [loadWith_of_parsed parses, overlaid_of_lacks unset, load_of_parses parses]

/-- Loading goes stage by stage, and the first stage that fails gives the error: the file is
missing, a directory, cannot be read or is no text, the document does not follow the grammar or does
not fit, the timeout of the environment is no number, or a rule is broken. What is loaded does not
depend on what the environment replaces, a replacement is validated, loading without an environment
is loading under one that sets nothing, and what is loaded breaks no rule. -/
theorem loadWith_iff_loads (text? : String → Option String) (stem : String) :
    (∀ content? r, loadWith content? text? stem = r ↔ Loads text? stem content? r) ∧
      (∀ ⦃content content' c c'⦄, Parses content (.ok c) → Parses content' (.ok c') →
        SameBut text? stem c c' →
        loadWith content text? stem = loadWith content' text? stem) ∧
      (∀ ⦃content? c suffix value fault⦄, Parses content? (.ok c) →
        (∀ e, ¬Misset text? stem e) → text? (variableName stem suffix) = some value →
        Breaks suffix value fault →
        ∃ es, loadWith content? text? stem = .error (.invalid es) ∧ fault ∈ es.toList) ∧
      (∀ env : Environment, (∀ name ∈ variableNames stem, env.Lacks name) →
        ∀ content, loadWith (some content) env.text? stem = load content) ∧
      ∀ content c, load content = .ok c ∨ (∃ content?, loadWith content? text? stem = .ok c) →
        faults c = [] := by
  refine ⟨fun content? r => loadWith_eq_iff, fun _ _ _ _ parses parses' same => ?_,
    fun _ _ _ _ _ parses readable set breaks => ?_, fun env lacks content => ?_,
    fun content c loaded => ?_⟩
  · exact loadWith_sameBut parses parses' same
  · exact loadWith_breaks parses readable set breaks
  · exact loadWith_of_lacks fun name member => Environment.text?_eq_none_iff.2 (lacks name member)
  · rcases loaded with loaded | ⟨content?, loaded⟩
    · exact faults_of_load loaded
    · exact faults_of_loadWith loaded

/-- A file with a level that is none and no time for a stop loads where the environment sets both,
and as the defaults do. Where the environment sets another level that is none, that is the fault,
unless the file is missing or its bytes are those of no text, for then nothing else matters. -/
theorem loadWith_iff_loads_loudFile :
    let file : FileContent :=
      .bytes "shutdown.timeout_ms = 0\nobservability.log_level = \"loud\"".toUTF8
    let env (level : String) : Environment :=
      [("SVC_LOG_LEVEL", level.toUTF8), ("SVC_SHUTDOWN_TIMEOUT_MS", "250".toUTF8)]
    loadWith (some file) (env "Debug").text? "SVC" = loadWith none (env "Debug").text? "SVC" ∧
      (∃ es, loadWith (some file) (env "shout").text? "SVC" = .error (.invalid es) ∧
        .logLevel "shout" ∈ es.toList) ∧
      loadWith (some file) (Environment.text? []) "SVC" = load file ∧
      loadWith (some .missing) (env "shout").text? "SVC" = .error (.file .notFound) ∧
      loadWith (some (.bytes ⟨#[255]⟩)) (env "shout").text? "SVC" = .error (.file .notText) := by
  intro file env
  have parses : Parses (some file)
      (.ok { shutdown := { timeoutMs := 0 }, observability := { logLevel := "loud" } }) :=
    parses_of_toOption (by decide +kernel)
  have set : (env "shout").text? (variableName "SVC" "LOG_LEVEL") = some "shout" := by
    decide +kernel
  have same : SameBut (env "Debug").text? "SVC"
      { shutdown := { timeoutMs := 0 }, observability := { logLevel := "loud" } } {} := by
    constructor <;> decide +kernel
  have timeout : (env "shout").text? (variableName "SVC" "SHUTDOWN_TIMEOUT_MS") = some "250" := by
    decide +kernel
  refine ⟨(loadWith_iff_loads (env "Debug").text? "SVC").2.1 parses .defaults same,
    (loadWith_iff_loads (env "shout").text? "SVC").2.2.1 parses ?_ set (.logLevel ?_),
    (loadWith_iff_loads (Environment.text? []) "SVC").2.2.2.1 [] ?_ file,
    ((loadWith_iff_loads (env "shout").text? "SVC").1 _ _).2 (.unparsed (.unreadable .missing)),
    ((loadWith_iff_loads (env "shout").text? "SVC").1 _ _).2 (.unparsed (.unreadable ?_))⟩
  · intro e misset
    have value : e.value = "250" := by
      rw [← Option.some.injEq, ← misset.set, misset.name, timeout]
    have unreadable : timeout? "250" = none := value ▸ misset.unreadable
    exact absurd unreadable (by decide +kernel)
  · decide +kernel
  · intro name member bytes set
    cases set
  · exact .notText (Environment.fromUTF8?_eq_none_iff.1 (by decide +kernel))

end Config

end Supervision
