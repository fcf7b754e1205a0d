import SkyfireBG.Arena.Law
import SkyfireBG.Auction.Conserved
import SkyfireBG.Aura.Upkeep
import SkyfireBG.Battleground.Flags
import SkyfireBG.Battleground.Match
import SkyfireBG.Battleground.Nodes
import SkyfireBG.Battleground.Rated
import SkyfireBG.Buyback.Restored
import SkyfireBG.Calendar.Authorised
import SkyfireBG.Channel.Owned
import SkyfireBG.Chat.Memory
import SkyfireBG.Combat.Lazy
import SkyfireBG.Cryptography.Srp6
import SkyfireBG.Dump.Nulls
import SkyfireBG.Event.Schedule
import SkyfireBG.Group.Persistence
import SkyfireBG.Group.RollClose
import SkyfireBG.Group.RollLaw
import SkyfireBG.Group.StoreIds
import SkyfireBG.Guild.Experience
import SkyfireBG.Guild.Log
import SkyfireBG.Guild.Master
import SkyfireBG.Guild.Quota
import SkyfireBG.Guild.Rights
import SkyfireBG.Instance.Allocated
import SkyfireBG.Instance.MapUpdater
import SkyfireBG.Inventory.Destroyed
import SkyfireBG.Inventory.Partial
import SkyfireBG.Lfg.Assigned
import SkyfireBG.Lfg.Boot
import SkyfireBG.Lfg.Search
import SkyfireBG.Loot.QuestDrop
import SkyfireBG.Loot.Shares
import SkyfireBG.Loot.View
import SkyfireBG.Mail.List
import SkyfireBG.Motion.Kept
import SkyfireBG.Movement.Codec
import SkyfireBG.Packets.Stream
import SkyfireBG.Player.ActionButtons
import SkyfireBG.Player.Currency
import SkyfireBG.Player.Talents
import SkyfireBG.Pool.Counted
import SkyfireBG.Pool.Load
import SkyfireBG.Processor.Fate
import SkyfireBG.Reputation.Kept
import SkyfireBG.Server.AuthSocket
import SkyfireBG.Server.SendPacket
import SkyfireBG.Server.World
import SkyfireBG.Server.WorldSession
import SkyfireBG.Ticket.Mgr
import SkyfireBG.Util.Utf
import SkyfireBG.Vehicle.Accounted
import SkyfireBG.Vendor.Purchase
