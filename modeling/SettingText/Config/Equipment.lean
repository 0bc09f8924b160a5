import SettingText.Config.Settings
import SettingText.Plugin.Manager

/-!
The registry that settings ask for: the converters every program starts with, and what plugins
contribute if they are looked for.
-/

namespace SettingText

/-- A registry for settings. No plugin is found, but looking for them is noted down. -/
def Registry.ofSettings (u : Universe) (s : Config.Settings) : Registry :=
  let r := withBuiltins { classes := u, memoize := s.memoize, prefixes := s.allowedPrefixes }
  if s.pluginsEnabled then
    let m := PluginManager.discover {} false
    (m.apply { r with journal := r.journal ++ m.journal }).2
  else r

end SettingText
