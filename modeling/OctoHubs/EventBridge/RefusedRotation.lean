import OctoHubs.EventBridge.LiveCredential

/-! When a refused rotation can be resolved by an authentication.
The plugin's credential is accepted wherever the plugin holds one, so a refusal is stuck
exactly when no push ever reached a plugin that started without a credential.
-/

namespace OctoHubs.EventBridge

open OctoHubs.Library

namespace World

variable {serverId : ServerId} {world next : World}

theorem plugin_isSome_step {event : Event} (taken : step serverId world event = some next)
    : next.plugin.isSome = true ↔ world.plugin.isSome = true ∨ event = .pluginAdopts := by
  cases Transition.of_step taken <;> simp

/-- At the end of a run the plugin holds a credential exactly when it started with one or
adopted some push, by induction on the run.
-/
theorem plugin_isSome_run {start finish : World} {events : List Event}
    (run : RotationRun serverId start events finish)
    : finish.plugin.isSome = true
      ↔ start.plugin.isSome = true ∨ Event.pluginAdopts ∈ events := by
  induction run with
  | nil => simp
  | cons _ taken _ ih =>
      rw [ih, plugin_isSome_step taken, List.mem_cons, or_assoc, @eq_comm _ Event.pluginAdopts]

end World

end OctoHubs.EventBridge
