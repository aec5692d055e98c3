import Mathlib.Data.List.Forall2
import Signet.Proofs.Decimal
import Signet.Proofs.Settings

/-! What the environment makes of settings. Ten of them can be overridden, each by a variable of its
own, in one order; the first variable that is no numeral where a number is asked for ends it, and what
was set before stays set. -/

namespace Signet.Settings

/-- A setting that a variable of the environment overrides. -/
inductive Override where
  | issuer
  | algorithm
  | tokenLifetime
  | secretTtl
  | leeway
  | storeTimeout
  | gatewayAddress
  | storeAddress
  | verifierAddress
  | workerThreads
  deriving DecidableEq

/-- What a setting holds; a number may be left open. -/
inductive Content where
  | text (text : String)
  | number (number : Option UInt64)

/-- What each of the settings that can be overridden holds. -/
def content (settings : Settings) : Override → Content
  | .issuer => .text settings.issuer
  | .algorithm => .text settings.algorithm
  | .tokenLifetime => .number (some settings.tokenLifetime)
  | .secretTtl => .number (some settings.secretTtl)
  | .leeway => .number (some settings.leeway)
  | .storeTimeout => .number (some settings.storeTimeout)
  | .gatewayAddress => .text settings.gatewayAddress
  | .storeAddress => .text settings.storeAddress
  | .verifierAddress => .text settings.verifierAddress
  | .workerThreads => .number settings.workerThreads

/-- The settings that no variable overrides are the same. -/
structure Kept (before after : Settings) : Prop where
  secretLength : after.secretLength = before.secretLength
  mismatchRetry : after.mismatchRetry = before.mismatchRetry
  cookieName : after.cookieName = before.cookieName

namespace Override

/-- The name of its variable. -/
def name : Override → String
  | issuer => "TOKENAUTH_ISSUER"
  | algorithm => "TOKENAUTH_ALGORITHM"
  | tokenLifetime => "TOKENAUTH_TOKEN_LIFETIME_SECS"
  | secretTtl => "TOKENAUTH_SECRET_TTL_SECS"
  | leeway => "TOKENAUTH_LEEWAY_SECS"
  | storeTimeout => "TOKENAUTH_STORE_TIMEOUT_MILLIS"
  | gatewayAddress => "TOKENAUTH_GATEWAY_ADDR"
  | storeAddress => "TOKENAUTH_STORE_ADDR"
  | verifierAddress => "TOKENAUTH_VERIFIER_ADDR"
  | workerThreads => "TOKENAUTH_WORKER_THREADS"

/-- How messages name it, if its variable is to be a number. -/
def setting? : Override → Option Setting
  | tokenLifetime => some .tokenLifetime
  | secretTtl => some .secretTtl
  | leeway => some .leeway
  | storeTimeout => some .storeTimeout
  | workerThreads => some .workerThreads
  | issuer | algorithm | gatewayAddress | storeAddress | verifierAddress => none

/-- The order in which variables are looked up. -/
def order : List Override := [issuer, algorithm, tokenLifetime, secretTtl, leeway, storeTimeout,
  gatewayAddress, storeAddress, verifierAddress, workerThreads]

/-- Those that are looked up before this one. -/
def earlier (override : Override) : List Override := order.takeWhile (· ≠ override)

/-- The text of its variable stands for this content: for itself, or for the number of a numeral. -/
inductive Tells (override : Override) (text : String) : Content → Prop where
  | text (plain : override.setting? = none) : override.Tells text (.text text)
  | number {setting : Setting} {number : UInt64} (numeric : override.setting? = some setting)
      (numeral : Decimal.Numeral text number) : override.Tells text (.number (some number))

/-- Its variable is not set, or stands for something. -/
def Readable (override : Override) (environment : Environment) : Prop :=
  ∀ text, environment override.name = some text → ∃ content, override.Tells text content

/-- Its variable is to be a number, and is set to a text that is no numeral. -/
structure Garbled (override : Override) (environment : Environment) (setting : Setting)
    (text : String) : Prop where
  numeric : override.setting? = some setting
  told : environment override.name = some text
  garbled : ∀ number, ¬ Decimal.Numeral text number

/-- The setting is what its variable stands for, or what it has been if the variable is not set. -/
structure Follows (override : Override) (environment : Environment) (before after : Settings) :
    Prop where
  told : ∀ text, environment override.name = some text →
    override.Tells text (after.content override)
  untold : environment override.name = none → after.content override = before.content override

/-- These settings follow the environment, and all others are what they have been. -/
structure Applied (environment : Environment) (overrides : List Override)
    (before after : Settings) : Prop where
  follows : ∀ override ∈ overrides, override.Follows environment before after
  others : ∀ override, override ∉ overrides → after.content override = before.content override
  kept : Kept before after

/-- How far an environment is applied, and what comes of it. -/
inductive Extent (environment : Environment) : List Override → Except SettingsError Unit → Prop where
  | all (readable : ∀ override : Override, override.Readable environment) :
    Extent environment order (.ok ())
  | until {override : Override} {setting : Setting} {text : String}
      (garbled : override.Garbled environment setting text)
      (readable : ∀ one ∈ override.earlier, one.Readable environment) :
    Extent environment override.earlier (.error (.invalid setting (.notNumber text)))

variable {environment : Environment} {override : Override} {before middle after later : Settings}
  {overrides : List Override}

theorem mem_order (override : Override) : override ∈ order := by
  cases override <;> decide

theorem order_nodup : order.Nodup := by decide

theorem order_eq (override : Override) : ∃ later, order = override.earlier ++ override :: later := by
  cases override <;> exact ⟨_, rfl⟩

/-- Of two settings one is looked up before the other. -/
theorem earlier_total (one other : Override) :
    one ∈ other.earlier ∨ one = other ∨ other ∈ one.earlier := by
  cases one <;> cases other <;> decide

theorem Tells.unique {text : String} {one other : Content} (first : override.Tells text one)
    (second : override.Tells text other) : one = other := by
  rcases first with plain | ⟨numeric, numeral⟩ <;> rcases second with plain' | ⟨numeric', numeral'⟩
  · rfl
  · exact absurd (plain.symm.trans numeric') nofun
  · exact absurd (plain'.symm.trans numeric) nofun
  · rw [numeral.unique numeral']

theorem readable_or_garbled (override : Override) (environment : Environment) :
    override.Readable environment ∨ ∃ setting text, override.Garbled environment setting text := by
  by_cases readable : override.Readable environment
  · exact .inl readable
  simp only [Readable, not_forall] at readable
  obtain ⟨text, told, untold⟩ := readable
  cases numeric : override.setting? with
  | none => exact absurd ⟨_, .text numeric⟩ untold
  | some setting =>
    refine .inr ⟨setting, text, numeric, told, fun number numeral => ?_⟩
    exact untold ⟨_, .number numeric numeral⟩

theorem Garbled.not_readable {setting : Setting} {text : String}
    (garbled : override.Garbled environment setting text) : ¬ override.Readable environment := by
  intro readable
  obtain ⟨content, plain | ⟨_, numeral⟩⟩ := readable text garbled.told
  · exact absurd (plain.symm.trans garbled.numeric) nofun
  · exact garbled.garbled _ numeral

/-- The first of these whose variable stands for nothing, if there is one. -/
private theorem readable_or_first (environment : Environment) (overrides : List Override) :
    (∀ override ∈ overrides, override.Readable environment) ∨
      ∃ override setting text, override.Garbled environment setting text ∧
        ∀ one ∈ overrides.takeWhile (· ≠ override), one.Readable environment := by
  induction overrides with
  | nil => exact .inl (List.forall_mem_nil _)
  | cons head rest ih =>
    rcases head.readable_or_garbled environment with readable | ⟨setting, text, garbled⟩
    · rcases ih with all | ⟨override, setting, text, garbled, first⟩
      · exact .inl (List.forall_mem_cons.mpr ⟨readable, all⟩)
      · have differs : head ≠ override := by
          rintro rfl
          exact garbled.not_readable readable
        refine .inr ⟨override, setting, text, garbled, ?_⟩
        rw [List.takeWhile_cons, decide_eq_true differs]
        exact List.forall_mem_cons.mpr ⟨readable, first⟩
    · refine .inr ⟨head, setting, text, garbled, ?_⟩
      rw [List.takeWhile_cons_of_neg (by simp)]
      exact List.forall_mem_nil _

theorem exists_extent (environment : Environment) :
    ∃ overrides outcome, Extent environment overrides outcome := by
  rcases readable_or_first environment order with all | ⟨override, setting, text, garbled, first⟩
  · exact ⟨_, _, .all fun override => all override override.mem_order⟩
  · exact ⟨_, _, .until garbled first⟩

/-- Settings that agree on each content and on what no variable overrides are the same. -/
theorem eq_of_content (same : ∀ override, after.content override = before.content override)
    (kept : Kept before after) : after = before := by
  have issuer := Content.text.inj (same issuer)
  have algorithm := Content.text.inj (same algorithm)
  have tokenLifetime := Option.some.inj (Content.number.inj (same tokenLifetime))
  have secretTtl := Option.some.inj (Content.number.inj (same secretTtl))
  have leeway := Option.some.inj (Content.number.inj (same leeway))
  have storeTimeout := Option.some.inj (Content.number.inj (same storeTimeout))
  have gatewayAddress := Content.text.inj (same gatewayAddress)
  have storeAddress := Content.text.inj (same storeAddress)
  have verifierAddress := Content.text.inj (same verifierAddress)
  have workerThreads := Content.number.inj (same workerThreads)
  obtain ⟨secretLength, mismatchRetry, cookieName⟩ := kept
  cases before
  cases after
  simp only at *
  subst_vars
  rfl

/-- What follows the environment once, follows it again only if it stays. -/
theorem Follows.again (follows : override.Follows environment before after)
    (repeated : override.Follows environment after later) :
    later.content override = after.content override := by
  cases told : environment override.name with
  | none => exact repeated.untold told
  | some text => exact (repeated.told text told).unique (follows.told text told)

theorem Applied.again (applied : Applied environment overrides before after)
    (repeated : Applied environment overrides after later) : later = after := by
  refine eq_of_content (fun override => ?_) repeated.kept
  by_cases member : override ∈ overrides
  · exact (applied.follows override member).again (repeated.follows override member)
  · exact repeated.others override member

theorem Applied.nil : Applied environment [] before before :=
  ⟨List.forall_mem_nil _, fun _ _ => rfl, rfl, rfl, rfl⟩

/-- One after the other: what has been set once is not set again. -/
theorem Applied.cons (first : Applied environment [override] before middle)
    (rest : Applied environment overrides middle after) (once : override ∉ overrides) :
    Applied environment (override :: overrides) before after where
  follows := by
    have stays := rest.others override once
    obtain ⟨told, untold⟩ := first.follows override (List.mem_singleton_self _)
    refine List.forall_mem_cons.mpr ⟨⟨?_, ?_⟩, ?_⟩
    · rwa [stays]
    · rwa [stays]
    · intro one member
      have differs : one ∉ [override] := by
        rintro same
        exact once (List.mem_singleton.mp same ▸ member)
      obtain ⟨told, untold⟩ := rest.follows one member
      exact ⟨told, fun unset => (untold unset).trans (first.others one differs)⟩
  others := by
    intro one absent
    rw [List.mem_cons, not_or] at absent
    exact (rest.others one absent.2).trans (first.others one (by simpa using absent.1))
  kept := ⟨rest.kept.secretLength.trans first.kept.secretLength,
    rest.kept.mismatchRetry.trans first.kept.mismatchRetry,
    rest.kept.cookieName.trans first.kept.cookieName⟩

end Override

open Override (Applied Extent)

variable {environment : Environment} {override : Override} {before middle after : Settings}
  {overrides : List Override} {next : Variable} {rest : List Variable}

/-- Only this setting is changed, and this is what it holds then. -/
structure Sets (override : Override) (content : Content) (before after : Settings) : Prop where
  content : after.content override = content
  others : ∀ one, one ≠ override → after.content one = before.content one
  kept : Kept before after

/-- The entry of a setting sets it to what its text stands for, and refuses a text that stands for
nothing. -/
structure Variable.Overrides (entry : Variable) (override : Override) : Prop where
  named : entry.name = override.name
  assigned : ∀ text before content, override.Tells text content →
    ∃ after, entry.assign text before = .ok after ∧ Sets override content before after
  refused : ∀ text before setting, override.setting? = some setting →
    (∀ number, ¬ Decimal.Numeral text number) →
    entry.assign text before = .error (.invalid setting (.notNumber text))

theorem overrides_text {name : String} {set : Settings → String → Settings}
    (named : name = override.name) (plain : override.setting? = none)
    (sets : ∀ before text, Sets override (.text text) before (set before text)) :
    Variable.Overrides ⟨name, fun text settings => .ok (set settings text)⟩ override where
  named := named
  assigned := by
    rintro text before content (_ | ⟨numeric, -⟩)
    · exact ⟨_, rfl, sets before text⟩
    · exact absurd (plain.symm.trans numeric) nofun
  refused := by
    intro text before setting numeric
    exact absurd (plain.symm.trans numeric) nofun

theorem overrides_number {name : String} {setting : Setting} {set : Settings → UInt64 → Settings}
    (named : name = override.name) (numeric : override.setting? = some setting)
    (sets : ∀ before number, Sets override (.number (some number)) before (set before number)) :
    Variable.Overrides ⟨name, fun text settings =>
      match Decimal.parse? text with
      | some number => .ok (set settings number)
      | none => .error (.invalid setting (.notNumber text))⟩ override where
  named := named
  assigned := by
    rintro text before content (plain | @⟨-, number, -, numeral⟩)
    · exact absurd (plain.symm.trans numeric) nofun
    · refine ⟨_, ?_, sets before number⟩
      simp only [Decimal.parse?_eq_some_iff.mpr numeral]
  refused := by
    intro text before other named garbled
    obtain rfl := Option.some.inj (numeric.symm.trans named)
    simp only [Decimal.parse?_eq_none_iff.mpr garbled]

/-- The variables that are looked up are those of the ten settings. -/
theorem overriding_overrides : List.Forall₂ Variable.Overrides overriding Override.order := by
  refine .cons (overrides_text rfl rfl ?_) <| .cons (overrides_text rfl rfl ?_) <|
    .cons (overrides_number rfl rfl ?_) <| .cons (overrides_number rfl rfl ?_) <|
    .cons (overrides_number rfl rfl ?_) <| .cons (overrides_number rfl rfl ?_) <|
    .cons (overrides_text rfl rfl ?_) <| .cons (overrides_text rfl rfl ?_) <|
    .cons (overrides_text rfl rfl ?_) <| .cons (overrides_number rfl rfl ?_) .nil
  all_goals
    intro before value
    refine ⟨rfl, ?_, rfl, rfl, rfl⟩
    intro one differs
    cases one <;> first | rfl | exact absurd rfl differs

/-- A variable that can be read is passed, and only its setting has changed then. -/
theorem overrideBy_cons_of_readable (overrides : next.Overrides override)
    (readable : override.Readable environment) (rest : List Variable) (before : Settings) :
    ∃ middle, overrideBy environment (next :: rest) before = overrideBy environment rest middle ∧
      Applied environment [override] before middle := by
  cases told : environment override.name with
  | none =>
    refine ⟨before, by rw [overrideBy, overrides.named, told], ?_, fun _ _ => rfl, rfl, rfl, rfl⟩
    refine List.forall_mem_singleton.mpr ⟨fun text set => ?_, fun _ => rfl⟩
    exact absurd (told.symm.trans set) nofun
  | some text =>
    obtain ⟨content, tells⟩ := readable text told
    obtain ⟨middle, assigned, sets⟩ := overrides.assigned text before content tells
    refine ⟨middle, by simp only [overrideBy, overrides.named, told, assigned], ?_, ?_, sets.kept⟩
    · refine List.forall_mem_singleton.mpr ⟨fun other set => ?_, fun unset => ?_⟩
      · obtain rfl := Option.some.inj (told.symm.trans set)
        rwa [sets.content]
      · exact absurd (told.symm.trans unset) nofun
    · intro one absent
      exact sets.others one (by simpa using absent)

theorem overrideBy_cons_of_garbled {setting : Setting} {text : String}
    (overrides : next.Overrides override) (garbled : override.Garbled environment setting text) :
    overrideBy environment (next :: rest) before =
      (before, .error (.invalid setting (.notNumber text))) := by
  have refused := overrides.refused text before setting garbled.numeric garbled.garbled
  simp only [overrideBy, overrides.named, garbled.told, refused]

/-- Variables that can be read are all passed: what is left is to apply the others. -/
theorem overrideBy_of_readable {entries : List Variable} {later : List Override}
    (entered : List.Forall₂ Variable.Overrides entries (overrides ++ later))
    (distinct : overrides.Nodup)
    (readable : ∀ override ∈ overrides, override.Readable environment) (before : Settings) :
    ∃ middle rest, List.Forall₂ Variable.Overrides rest later ∧
      overrideBy environment entries before = overrideBy environment rest middle ∧
      Applied environment overrides before middle := by
  -- Each variable is passed on from where the last one has left the settings; since no setting comes
  -- twice, what has been set then stays set.
  induction overrides generalizing entries before with
  | nil => exact ⟨before, entries, entered, rfl, .nil⟩
  | cons override overrides ih =>
    obtain ⟨once, distinct⟩ := List.nodup_cons.mp distinct
    obtain ⟨first, readable⟩ := List.forall_mem_cons.mp readable
    cases entered with
    | @cons next _ entries _ head entered =>
      obtain ⟨one, passed, set⟩ := overrideBy_cons_of_readable head first entries before
      obtain ⟨middle, rest, left, same, applied⟩ := ih entered distinct readable one
      exact ⟨middle, rest, left, passed.trans same, set.cons applied once⟩

/-- How far the environment is applied, and what comes of it, is the same for all settings. -/
theorem overrideFrom_of_extent {outcome : Except SettingsError Unit}
    (extent : Extent environment overrides outcome) (before : Settings) :
    ∃ after, before.overrideFrom environment = (after, outcome) ∧
      Applied environment overrides before after := by
  cases extent with
  | all readable =>
    have entered := overriding_overrides
    rw [← List.append_nil Override.order] at entered
    obtain ⟨after, rest, left, same, applied⟩ := overrideBy_of_readable entered
      Override.order_nodup (fun override _ => readable override) before
    cases left
    exact ⟨after, same, applied⟩
  | @«until» override setting text garbled readable =>
    obtain ⟨later, split⟩ := override.order_eq
    have entered := overriding_overrides
    have distinct := Override.order_nodup
    rw [split] at entered distinct
    obtain ⟨after, rest, left, same, applied⟩ := overrideBy_of_readable entered
      (List.nodup_append.mp distinct).1 readable before
    cases left with
    | cons next left => exact ⟨after, same.trans (overrideBy_cons_of_garbled next garbled), applied⟩

/-- Where a service starts, each variable that is set has been read. -/
theorem tells_of_load {files : Files} {settings : Settings} {text : String}
    (loaded : load files environment = .ok settings) (told : environment override.name = some text) :
    override.Tells text (settings.content override) := by
  obtain ⟨base, succeeded, -⟩ := exists_base_of_load loaded
  obtain ⟨overrides, outcome, extent⟩ := Override.exists_extent environment
  obtain ⟨after, applied, changed⟩ := overrideFrom_of_extent extent base
  obtain ⟨rfl, rfl⟩ := Prod.mk.inj (applied.symm.trans succeeded)
  cases extent with
  | all => exact (changed.follows override override.mem_order).told text told

/-- A setting before which nothing fails follows its own variable, or stays if that one fails. -/
theorem content_of_reached {outcome : Except SettingsError Unit}
    (extent : Extent environment overrides outcome)
    (applied : Applied environment overrides before after)
    (reached : ∀ one ∈ override.earlier, one.Readable environment) :
    (override.Readable environment → override.Follows environment before after) ∧
    (¬ override.Readable environment → after.content override = before.content override) := by
  cases extent with
  | all readable =>
    exact ⟨fun _ => applied.follows override override.mem_order,
      fun unreadable => absurd (readable override) unreadable⟩
  | @«until» stopped _ _ garbled first =>
    constructor
    · intro readable
      -- Had the failure come first, it would be among what is known to be readable.
      rcases override.earlier_total stopped with before | same | behind
      · exact applied.follows override before
      · exact absurd (same ▸ readable) garbled.not_readable
      · exact absurd (reached stopped behind) garbled.not_readable
    · intro unreadable
      exact applied.others override fun member => unreadable (first override member)

/-- Two environments with the same variable for a setting make the same of it, unless one before it
fails in one of them. -/
theorem content_congr {other : Environment} {others : List Override}
    {outcome outcome' : Except SettingsError Unit} {after' : Settings}
    (extent : Extent environment overrides outcome) (extent' : Extent other others outcome')
    (applied : Applied environment overrides before after)
    (applied' : Applied other others before after')
    (same : other override.name = environment override.name)
    (reached : ∀ one ∈ override.earlier, one.Readable environment ∧ one.Readable other) :
    after'.content override = after.content override := by
  obtain ⟨follows, stays⟩ := content_of_reached extent applied fun one member =>
    (reached one member).1
  obtain ⟨follows', stays'⟩ := content_of_reached extent' applied' fun one member =>
    (reached one member).2
  have alike : override.Readable other ↔ override.Readable environment := by
    rw [Override.Readable, Override.Readable, same]
  by_cases readable : override.Readable environment
  · obtain ⟨told, untold⟩ := follows readable
    obtain ⟨told', untold'⟩ := follows' (alike.mpr readable)
    cases set : environment override.name with
    | none => exact (untold' (same.trans set)).trans (untold set).symm
    | some text => exact (told' text (same.trans set)).unique (told text set)
  · exact (stays' fun read => readable (alike.mp read)).trans (stays readable).symm

/-- What an environment makes of settings, whatever they are. If every variable that is set to be a
number is a numeral, all ten settings follow their variables. If not, the first that is none is named,
the settings before it follow their variables, and the others stay. In either case the settings
without a variable stay, a setting before which nothing fails depends on its own variable only, and a
second time makes no difference. -/
theorem overrideFrom_exact (environment : Environment) (before : Settings) :
    ∃ after outcome, before.overrideFrom environment = (after, outcome) ∧
      ((∀ override : Override, override.Readable environment) →
        outcome = .ok () ∧ ∀ override : Override, override.Follows environment before after) ∧
      ((∃ override : Override, ¬ override.Readable environment) →
        ∃ (override : Override) (setting : Setting) (text : String),
          override.Garbled environment setting text ∧
          outcome = .error (.invalid setting (.notNumber text)) ∧
          (∀ one ∈ override.earlier,
            one.Readable environment ∧ one.Follows environment before after) ∧
          ∀ one, one ∉ override.earlier → after.content one = before.content one) ∧
      Kept before after ∧
      (∀ (other : Environment) (override : Override),
        other override.name = environment override.name →
        (∀ one ∈ override.earlier, one.Readable environment ∧ one.Readable other) →
        (before.overrideFrom other).1.content override = after.content override) ∧
      after.overrideFrom environment = (after, outcome) := by
  obtain ⟨overrides, outcome, extent⟩ := Override.exists_extent environment
  obtain ⟨after, applied, changed⟩ := overrideFrom_of_extent extent before
  refine ⟨after, outcome, applied, ?_, ?_, changed.kept, ?_, ?_⟩
  · intro readable
    cases extent with
    | all => exact ⟨rfl, fun override => changed.follows override override.mem_order⟩
    | «until» garbled => exact absurd (readable _) garbled.not_readable
  · rintro ⟨override, unreadable⟩
    cases extent with
    | all readable => exact absurd (readable override) unreadable
    | @«until» first setting text garbled readable =>
      refine ⟨first, setting, text, garbled, rfl, ?_, changed.others⟩
      exact fun one member => ⟨readable one member, changed.follows one member⟩
  · intro other override same reached
    obtain ⟨others, outcome', extent'⟩ := Override.exists_extent other
    obtain ⟨after', applied', changed'⟩ := overrideFrom_of_extent extent' before
    rw [applied']
    exact content_congr extent extent' changed changed' same reached
  · obtain ⟨later, again, repeated⟩ := overrideFrom_of_extent extent after
    rw [again, changed.again repeated]

/-- Two numbers are set; the first is a numeral with a sign and a zero, the second is none. -/
def sampleEnvironment : Environment := fun name =>
  [("TOKENAUTH_ISSUER", "other"), ("TOKENAUTH_TOKEN_LIFETIME_SECS", "+060"),
    ("TOKENAUTH_LEEWAY_SECS", "soon"), ("TOKENAUTH_GATEWAY_ADDR", "[::1]:80")].lookup name

/-- Only the numeral is set. -/
def sampleLifetime : Environment := fun name =>
  [("TOKENAUTH_TOKEN_LIFETIME_SECS", "+060")].lookup name

/-- What comes before the leeway is set and nothing behind it, however often; with the numeral alone
nothing fails, and the lifetime is the same. -/
theorem overrideFrom_samples :
    ∃ after alone, standard.overrideFrom sampleEnvironment =
        (after, .error (.invalid .leeway (.notNumber "soon"))) ∧
      after = { standard with issuer := "other", tokenLifetime := 60 } ∧
      (∀ one ∈ Override.leeway.earlier, one.Follows sampleEnvironment standard after) ∧
      after.overrideFrom sampleEnvironment =
        (after, .error (.invalid .leeway (.notNumber "soon"))) ∧
      standard.overrideFrom sampleLifetime = (alone, .ok ()) ∧
      alone.content .tokenLifetime = after.content .tokenLifetime := by
  obtain ⟨after, outcome, applied, -, stopped, -, independent, again⟩ :=
    overrideFrom_exact sampleEnvironment standard
  obtain ⟨alone, outcome', applied', all, -⟩ := overrideFrom_exact sampleLifetime standard
  have computed : standard.overrideFrom sampleEnvironment =
      ({ standard with issuer := "other", tokenLifetime := 60 },
        .error (.invalid .leeway (.notNumber "soon"))) := rfl
  obtain ⟨rfl, rfl⟩ := Prod.mk.inj (applied.symm.trans computed)
  have soon : Override.leeway.Garbled sampleEnvironment .leeway "soon" :=
    ⟨rfl, rfl, Decimal.parse?_eq_none_iff.mp rfl⟩
  obtain ⟨first, setting, text, garbled, failed, follows, -⟩ := stopped ⟨.leeway, soon.not_readable⟩
  cases failed
  obtain rfl : first = .leeway := by
    cases first <;> first | rfl | exact absurd garbled.numeric (by decide)
  have readable : ∀ override : Override, override.Readable sampleLifetime := by
    intro override text told
    cases override
    case tokenLifetime =>
      obtain rfl : "+060" = text := Option.some.inj told
      exact ⟨_, .number rfl (Decimal.parse?_eq_some_iff.mp rfl)⟩
    all_goals exact absurd told nofun
  obtain ⟨rfl, -⟩ := all readable
  have sooner : ∀ one ∈ Override.tokenLifetime.earlier, one ∈ Override.leeway.earlier := by decide
  have same := independent sampleLifetime .tokenLifetime rfl fun one member =>
    ⟨(follows one (sooner one member)).1, readable one⟩
  rw [applied'] at same
  exact ⟨_, alone, applied, rfl, fun one member => (follows one member).2, again, applied', same⟩

end Signet.Settings
