import ServerTrials.Proofs.Options
import ServerTrials.Proofs.Server.Judging

/-!
What a judgement looks at.

Every reader looks at its own options and at no others, so a judgement goes the same way on options that
agree where the readers look. The host is asked for the endpoints only, where the options and the host come
together: `map_ofOptions_congr` leaves this one step open, and each mode closes it by what it reads there.
-/

namespace ServerTrials

namespace Key

/-- The options that are judged. -/
def judged : List String := all.filter (· ≠ verbosity)

example : judged.length = 10 := by decide

/-- The options that are judged outside full mode. -/
def judgedOutsideFull : List String := judged.filter (· ≠ alternateInterface)

/-- The options that are judged without a look at the host. -/
def judgedAnywhere : List String := judgedOutsideFull.filter (· ≠ primaryInterface)

end Key

/-- The answers are the same up to what is kept of a value if each step is. -/
theorem Except.map_bind_congr {ε α β γ : Type} {x y : Except ε α} {f g : α → Except ε β}
    {kept : β → γ} (first : x = y) (next : ∀ a, x = .ok a → (f a).map kept = (g a).map kept) :
    (x >>= f).map kept = (y >>= g).map kept := by
  subst first
  cases x with
  | error e => rfl
  | ok a => exact next a rfl

namespace ServerConfig

/-- The configuration without its verbosity. -/
def silenced (c : ServerConfig) : ServerConfig := { c with verbosity := none }

variable {o p : OptionMap} {host host' : Host} {key : String}

/-! ### The readers -/

theorem readMode_congr (h : o.value? Key.mode = p.value? Key.mode) : readMode o = readMode p := by
  rw [readMode, readMode, OptionMap.string?_congr h]

theorem readFamily_congr (h : o.value? Key.family = p.value? Key.family) :
    readFamily o = readFamily p := by
  rw [readFamily, readFamily, OptionMap.integer?_congr h]

theorem readProtocol_congr (h : o.value? Key.protocol = p.value? Key.protocol) :
    readProtocol o = readProtocol p := by
  rw [readProtocol, readProtocol, OptionMap.string?_congr h]

theorem readMaxConnections_congr (h : o.value? Key.maxConnections = p.value? Key.maxConnections)
    (protocol : Protocol) : readMaxConnections o protocol = readMaxConnections p protocol := by
  rw [readMaxConnections, readMaxConnections, OptionMap.integer?_congr h]

theorem readPort_congr (h : o.value? key = p.value? key) (default : UInt16) :
    readPort o key default = readPort p key default := by
  rw [readPort, readPort, OptionMap.integer?_congr h]

theorem readInterface_congr (h : o.value? key = p.value? key) (host : Host) (family : Family)
    (unnamed : Except ConfigError IpAddress) :
    readInterface o host family key unnamed = readInterface p host family key unnamed := by
  rw [readInterface, readInterface, OptionMap.string?_congr h]

theorem readAdvertised_congr (h : o.value? key = p.value? key) (family : Family) :
    readAdvertised o key family = readAdvertised p key family := by
  rw [readAdvertised, readAdvertised, OptionMap.string?_congr h]

theorem readAlternateAdvertised_congr
    (h : o.value? Key.alternateAdvertised = p.value? Key.alternateAdvertised) (mode : Mode)
    (family : Family) : readAlternateAdvertised o mode family = readAlternateAdvertised p mode family := by
  rw [readAlternateAdvertised, readAlternateAdvertised, OptionMap.string?_congr h,
    readAdvertised_congr h]

theorem basicEndpoints_congr (h : o.value? Key.primaryInterface = p.value? Key.primaryInterface)
    (host : Host) (family : Family) (port : UInt16) :
    basicEndpoints o host family port = basicEndpoints p host family port := by
  rw [basicEndpoints, basicEndpoints, readInterface_congr h]

theorem fullEndpoints_congr (primary : o.value? Key.primaryInterface = p.value? Key.primaryInterface)
    (alternate : o.value? Key.alternateInterface = p.value? Key.alternateInterface) (host : Host)
    (family : Family) (port port' : UInt16) :
    fullEndpoints o host family port port' = fullEndpoints p host family port port' := by
  simp only [fullEndpoints, readInterface_congr primary, readInterface_congr alternate]

/-- A mode that is read is the one that the options ask for. -/
theorem eq_basic_of_readMode {mode : Mode} (notFull : o.get? Key.mode ≠ some (.string "full"))
    (h : readMode o = .ok mode) : mode = .basic := by
  have judges : Judges o .bare _ (· = modeOf o) (readMode o) := judges_readMode
  rw [h] at judges
  rw [judges.2, modeOf, if_neg notFull]

/-- Without a named interface a basic server asks the host nothing. -/
theorem basicEndpoints_of_unnamed (unnamed : o.get? Key.primaryInterface = none) (host host' : Host)
    (family : Family) (port : UInt16) :
    basicEndpoints o host family port = basicEndpoints o host' family port := by
  have read : o.string? Key.primaryInterface = .ok none := by rw [OptionMap.string?, unnamed]
  rw [basicEndpoints, basicEndpoints, readInterface, readInterface, read]
  rfl

/-! ### The judgement -/

/-- Judgements go the same way as long as the endpoints are read the same way, up to what is not kept of
the verbosity. -/
theorem map_ofOptions_congr {γ : Type} {kept : ServerConfig → γ} (agree : o.AgreeOn Key.judgedAnywhere p)
    (verbosity : ∀ c : ServerConfig, c.verbosity = readVerbosity o →
      kept c = kept { c with verbosity := readVerbosity p })
    (endpoints : ∀ mode family port port', readMode o = .ok mode →
      readEndpoints o host mode family port port' = readEndpoints p host' mode family port port') :
    (ofOptions o host).map kept = (ofOptions p host').map kept := by
  have same : ∀ key, key ∈ Key.judgedAnywhere → o.value? key = p.value? key := agree
  refine Except.map_bind_congr (readMode_congr (same _ (by decide))) fun mode hmode => ?_
  refine Except.map_bind_congr (readFamily_congr (same _ (by decide))) fun family _ => ?_
  refine Except.map_bind_congr (readProtocol_congr (same _ (by decide))) fun protocol _ => ?_
  refine Except.map_bind_congr (readMaxConnections_congr (same _ (by decide)) _) fun limit _ => ?_
  refine Except.map_bind_congr (readPort_congr (same _ (by decide)) _) fun primary _ => ?_
  refine Except.map_bind_congr (readPort_congr (same _ (by decide)) _) fun alternate _ => ?_
  split
  next collide => rfl
  next differ =>
    refine Except.map_bind_congr (endpoints mode family primary alternate hmode) fun es _ => ?_
    refine Except.map_bind_congr (readAdvertised_congr (same _ (by decide)) _) fun told _ => ?_
    refine Except.map_bind_congr (readAlternateAdvertised_congr (same _ (by decide)) _ _) fun told' _ => ?_
    exact congrArg Except.ok (verbosity _ rfl)

theorem map_silenced_congr (agree : o.AgreeOn Key.judged p) (host : Host) :
    (ofOptions o host).map silenced = (ofOptions p host).map silenced := by
  refine map_ofOptions_congr (agree.of_subset (by decide)) (fun _ _ => rfl)
    fun mode family port port' _ => ?_
  have primary := agree Key.primaryInterface (by decide)
  cases mode with
  | basic => exact basicEndpoints_congr primary host family port
  | full => exact fullEndpoints_congr primary (agree _ (by decide)) host family port port'

theorem map_silenced_congr_of_not_full (notFull : o.get? Key.mode ≠ some (.string "full"))
    (agree : o.AgreeOn Key.judgedOutsideFull p) (host : Host) :
    (ofOptions o host).map silenced = (ofOptions p host).map silenced := by
  refine map_ofOptions_congr (agree.of_subset (by decide)) (fun _ _ => rfl)
    fun mode family port port' hmode => ?_
  obtain rfl := eq_basic_of_readMode notFull hmode
  exact basicEndpoints_congr (agree _ (by decide)) host family port

theorem ofOptions_eq_of_not_full (notFull : o.get? Key.mode ≠ some (.string "full"))
    (unnamed : o.get? Key.primaryInterface = none) (host host' : Host) :
    ofOptions o host = ofOptions o host' := by
  have whole : (ofOptions o host).map id = (ofOptions o host').map id := by
    refine map_ofOptions_congr (fun _ _ => rfl) (fun c told => by rw [← told])
      fun mode family port port' hmode => ?_
    obtain rfl := eq_basic_of_readMode notFull hmode
    exact basicEndpoints_of_unnamed unnamed host host' family port
  rwa [Except.map_id, id, id] at whole

/-- What is not judged has no say. Options that agree in the ten judged ones get the same error or the same
configuration up to its verbosity, so an option beside these never matters, whatever it holds. Unless the mode
is full, the alternate interface has no say either; and if moreover no primary interface is named, neither has
the host. -/
theorem judged_options_decide (host : Host) :
    (∀ o p : OptionMap, o.AgreeOn Key.judged p →
      (ofOptions o host).map silenced = (ofOptions p host).map silenced) ∧
    (∀ (o : OptionMap) (key : String) (value : Json), key ∉ Key.judged →
      (ofOptions (o.insert key value) host).map silenced = (ofOptions o host).map silenced) ∧
    (∀ o p : OptionMap, o.get? Key.mode ≠ some (.string "full") → o.AgreeOn Key.judgedOutsideFull p →
      (ofOptions o host).map silenced = (ofOptions p host).map silenced) ∧
    ∀ (o : OptionMap) (host' : Host), o.get? Key.mode ≠ some (.string "full") →
      o.get? Key.primaryInterface = none → ofOptions o host = ofOptions o host' := by
  refine ⟨fun o p agree => map_silenced_congr agree host, fun o key value other => ?_,
    fun o p notFull agree => map_silenced_congr_of_not_full notFull agree host,
    fun o host' notFull unnamed => ofOptions_eq_of_not_full notFull unnamed host host'⟩
  exact map_silenced_congr (OptionMap.agreeOn_insert other o value) host

/-- A basic server for IPv6. -/
def plain : OptionMap := .ofList [(Key.family, .number (.integer 6))]

/-- The same with an option that nobody knows and a verbosity that is no number. -/
def decorated : OptionMap := (plain.insert "colour" .null).insert Key.verbosity (.string "loud")

/-- The same with an alternate interface that is no name. -/
def misplaced : OptionMap := plain.insert Key.alternateInterface (.number (.integer 7))

/-- All three are judged alike, and the first one on any host. -/
theorem plain_decides :
    (plain.AgreeOn Key.judged decorated ∧
      (ofOptions plain .dualHomed).map silenced = (ofOptions decorated .dualHomed).map silenced) ∧
    (Key.verbosity ∉ Key.judged ∧ (ofOptions (plain.insert Key.verbosity .null) .dualHomed).map silenced
      = (ofOptions plain .dualHomed).map silenced) ∧
    (plain.get? Key.mode ≠ some (.string "full") ∧ plain.AgreeOn Key.judgedOutsideFull misplaced ∧
      (ofOptions plain .dualHomed).map silenced = (ofOptions misplaced .dualHomed).map silenced) ∧
    plain.get? Key.primaryInterface = none ∧ ofOptions plain .dualHomed = ofOptions plain .bare := by
  obtain ⟨same, beside, outside, anywhere⟩ := judged_options_decide .dualHomed
  have agree : plain.AgreeOn Key.judged decorated := by decide
  have other : Key.verbosity ∉ Key.judged := by decide
  have notFull : plain.get? Key.mode ≠ some (.string "full") := by decide
  have agreeOutside : plain.AgreeOn Key.judgedOutsideFull misplaced := by decide
  exact ⟨⟨agree, same _ _ agree⟩, ⟨other, beside plain _ .null other⟩,
    ⟨notFull, agreeOutside, outside _ _ notFull agreeOutside⟩, rfl, anywhere plain .bare notFull rfl⟩

end ServerConfig
end ServerTrials
