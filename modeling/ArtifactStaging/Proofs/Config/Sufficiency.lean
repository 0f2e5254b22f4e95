/-
# ArtifactStaging.Proofs.Config.Sufficiency -- what settings within bounds are good for

The bounds are checked in one place, and what needs them lies in several: the home directory
and the roots of the shared libraries are read again as locations, the rule of the distribution
bundle is made ready to match, and bulk registration looks at the directory for resources and
the replication.  `settings_suffice` says of every configuration that is within bounds which of
these can still fail.

All but one cannot.  The rule is made of two globs, and no bound speaks of these.  A rule
without backslashes always makes a pattern, but escaping leaves the backslash alone, and an
extension that ends in one makes a glob that is none (`dangling_accepted`): the configuration is
accepted, and staging is refused with it.
-/
import ArtifactStaging.Config.Effective
import ArtifactStaging.Proofs.DistBundle.Rules
import ArtifactStaging.Proofs.Location.ApplicationDirectory
import ArtifactStaging.Proofs.Staging.Arguments

set_option autoImplicit false

namespace ArtifactStaging

open Glob (unmarked?)

namespace Settings

variable {config : Json} {settings : Settings}

/-- Settings that were read are within bounds. -/
theorem validate_of_ofConfig (h : ofConfig config = .ok settings) : settings.validate = .ok () := by
  obtain ⟨read, -, h⟩ := Except.bind_ok_iff.1 h
  obtain ⟨_, checked, h⟩ := Except.bind_ok_iff.1 h
  cases h
  exact Except.mapError_ok_iff.1 checked

theorem checkArguments_of_validate (h : settings.validate = .ok ()) :
    Uploader.checkArguments settings.resourcesDirectory settings.replication = .ok () := by
  obtain ⟨replicated, -, -, inhabited, -⟩ := validate_ok_iff.1 h
  exact Uploader.checkArguments_ok_iff.2 ⟨replicated, inhabited⟩

theorem stagingOptions_of_ofRule {pattern : DistBundlePattern}
    (h : DistBundlePattern.ofRule settings.dist = .ok pattern) :
    settings.stagingOptions = .ok ⟨settings.space, settings.retry, pattern⟩ := by
  rw [stagingOptions, h]
  rfl

theorem stagingOptions_of_refused {fault : PatternFault}
    (h : DistBundlePattern.ofRule settings.dist = .error fault) :
    settings.stagingOptions = .error (.badPattern fault) := by
  rw [stagingOptions, h]
  rfl

end Settings

namespace EffectiveConfig

variable {effective : EffectiveConfig} {settings : Settings}

/-- **Settings within bounds are enough to stage with, backslashes apart.**  The home directory and
the roots of the shared libraries are read as locations.  A rule without backslashes makes a
pattern, and so does one whose backslashes stand before characters without a meaning of their own;
an extension that ends in a backslash is refused, although it is within bounds.  Bulk registration
beneath the directory for resources is never refused for its arguments: on any host the one argument
it may refuse is a file of its plan that has no name, and on a disk there is none. -/
theorem settings_suffice (accepted : effective.settings = .ok settings) :
    (∃ home, settings.homeLocation = .ok home) ∧
    (∃ roots, settings.sharedLocations = .ok roots) ∧
    ('\\' ∉ settings.dist.lead.toList → '\\' ∉ settings.dist.extension.toList →
      ∃ pattern, DistBundlePattern.ofRule settings.dist = .ok pattern ∧
        settings.stagingOptions = .ok ⟨settings.space, settings.retry, pattern⟩) ∧
    (∀ lead, unmarked? settings.dist.lead.toList = some lead →
      (∀ extension, unmarked? settings.dist.extension.toList = some extension →
        ∃ pattern, DistBundlePattern.ofRule settings.dist = .ok pattern ∧
          settings.stagingOptions = .ok ⟨settings.space, settings.retry, pattern⟩) ∧
      ∀ before extension, settings.dist.extension.toList = before ++ ['\\'] →
        unmarked? before = some extension →
          settings.stagingOptions = .error (.badPattern
            ⟨String.ofList settings.dist.extensionGlob, .danglingBackslash⟩)) ∧
    (∀ (σ : Type) (host : Host σ) (uploader : Uploader) (inputs : List Location)
      (s t : Submission σ) (fault : ArgumentFault),
      (uploader.registerMany host inputs settings.resourcesDirectory settings.replication).outcome
        s = (.error (.invalidArgument fault), t) → ∃ path, fault = .noFileName path) ∧
    ∀ (root : String) (uploader : Uploader) (inputs : List Location) (s t : Submission Disk)
      (fault : ArgumentFault), s.world.files.tree.isDirectory s.world.files.here = true →
        (uploader.registerMany (Disk.host root) inputs settings.resourcesDirectory
          settings.replication).outcome s ≠ (.error (.invalidArgument fault), t) := by
  have within := Settings.validate_of_ofConfig accepted
  obtain ⟨-, -, -, -, -, home, shared⟩ := Settings.validate_ok_iff.1 within
  have arguments := Settings.checkArguments_of_validate within
  have made {lead extension : List Char} (hlead : unmarked? settings.dist.lead.toList = some lead)
      (hextension : unmarked? settings.dist.extension.toList = some extension) :
      ∃ pattern, DistBundlePattern.ofRule settings.dist = .ok pattern ∧
        settings.stagingOptions = .ok ⟨settings.space, settings.retry, pattern⟩ := by
    obtain ⟨pattern, hpattern, -⟩ := DistBundlePattern.accepts_iff_unmarked hlead hextension
    exact ⟨pattern, hpattern, Settings.stagingOptions_of_ofRule hpattern⟩
  refine ⟨home, shared, ?_, ?_, ?_, ?_⟩
  · intro hlead hextension
    exact made (Glob.unmarked?_eq_self hlead) (Glob.unmarked?_eq_self hextension)
  · intro lead hlead
    constructor
    · intro extension hextension
      exact made hlead hextension
    · intro before extension hextension hbefore
      apply Settings.stagingOptions_of_refused
      exact DistBundlePattern.ofRule_of_dangling hlead hextension hbefore
  · intro σ host uploader inputs s t fault failed
    obtain ⟨-, -, -, -, -, path, -, -, -, -, heq⟩ :=
      Uploader.registerMany_invalidArgument arguments failed
    exact ⟨path, heq⟩
  · intro root uploader inputs s t fault start
    exact Uploader.registerMany_disk_ne_invalidArgument arguments start

/-- A remote home directory, and shared libraries in a local and in a remote directory. -/
def placed : EffectiveConfig :=
  ⟨Config.mergeLayers [Config.builtin, .obj [("home_dir", .str "hh://n/u/"),
    ("shared_lib_dirs", .arr [.str "/opt/l/", .str "hh:m"])]], [.builtin, .commandLine]⟩

/-- With these directories there is enough to stage with. -/
theorem settings_suffice_placed :
    ∃ settings home roots options, placed.settings = .ok settings ∧
      settings.homeLocation = .ok home ∧ home = some ⟨some "hh", "n", "/u"⟩ ∧
      settings.sharedLocations = .ok roots ∧
      roots = [⟨none, "", "/opt/l"⟩, ⟨some "hh", "", "m"⟩] ∧
      settings.stagingOptions = .ok options := by
  have read : placed.settings =
      .ok ⟨some "hh://n/u/", "shipyard", ["/opt/l/", "hh:m"], none, 3, "lib", .default, .default,
        ⟨"info", .text⟩⟩ := by
    decide
  obtain ⟨⟨home, hhome⟩, ⟨roots, hroots⟩, literal, -⟩ := settings_suffice read
  obtain ⟨pattern, -, options⟩ := literal (by decide) (by decide)
  have home_eq : (.ok home : Except SettingFault _) = .ok (some ⟨some "hh", "n", "/u"⟩) :=
    hhome.symm.trans (by decide)
  have roots_eq : (.ok roots : Except SettingFault _) =
      .ok [⟨none, "", "/opt/l"⟩, ⟨some "hh", "", "m"⟩] := hroots.symm.trans (by decide)
  exact ⟨_, home, roots, _, read, hhome, Except.ok.inj home_eq, hroots, Except.ok.inj roots_eq,
    options⟩

/-- The built-in configuration with a single backslash for an extension is accepted, and there is
no staging with it. -/
theorem dangling_accepted :
    ∃ settings, EffectiveConfig.settings ⟨Config.mergeLayers
        [Config.builtin, .obj [("dist", .obj [("extension", .str "\\")])]],
        [.builtin, .commandLine]⟩ = .ok settings ∧
      settings.stagingOptions = .error (.badPattern ⟨"*\\", .danglingBackslash⟩) := by
  have read : EffectiveConfig.settings ⟨Config.mergeLayers
      [Config.builtin, .obj [("dist", .obj [("extension", .str "\\")])]],
      [.builtin, .commandLine]⟩ =
        .ok ⟨none, "shipyard", [], none, 3, "lib", .default, ⟨"app-dist", "\\"⟩,
          ⟨"info", .text⟩⟩ := by
    decide
  refine ⟨_, read, Settings.stagingOptions_of_refused ?_⟩
  exact DistBundlePattern.ofRule_of_dangling (Glob.unmarked?_eq_self (by decide))
    (show "\\".toList = [] ++ ['\\'] from rfl) rfl

end EffectiveConfig

end ArtifactStaging
