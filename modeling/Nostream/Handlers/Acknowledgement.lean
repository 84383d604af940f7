import Nostream.Handlers.MessageStages
import Nostream.Repositories.Writes

set_option autoImplicit false

namespace Nostream.Acknowledgement

open Utf16 Hex Sql Effects EventRepository EventMessageHandler MessageStages Writes

theorem acknowledge_run (webSocket : IWebSocketAdapter) (event : Event) (count : Nat) (world : World) :
    ((acknowledge webSocket event count).run world).2.sent = world.sent ++
      [(createCommandResult event.id true (if count ≠ 0 then [] else js "duplicate:"), world.table)] := by
  by_cases counted : count = 0
  · rw [counted, acknowledge_zero]
    rfl
  · rw [acknowledge_counted webSocket event world count counted, if_pos counted]
    cases webSocket.broadcastFailure <;> rfl

theorem delete_run (webSocket : IWebSocketAdapter) (fates : Fates) (event : Event) (table : EventsTable)
    (listed : DeleteEventStrategy.eventIdsToDelete event ≠ []) :
    (DeleteEventStrategy.execute webSocket (eventRepository fates) event).run { table := table } =
      (onTable (deleteByPubkeyAndIds fates.update fates.now event.pubkey
          (DeleteEventStrategy.eventIdsToDelete event)) >>= fun _ =>
        DefaultEventStrategy.execute webSocket (eventRepository fates) event).run { table := table } := by
  unfold DeleteEventStrategy.execute
  rw [if_pos listed]
  rfl

end Nostream.Acknowledgement
