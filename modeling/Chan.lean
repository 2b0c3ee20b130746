import Chan.Doc.Durability
import Chan.Doc.Registry
import Chan.Doc.Budget
import Chan.Doc.LineEndings
import Chan.Doc.HttpReplace
import Chan.Doc.Restart
import Chan.Doc.LyingDisk
import Chan.Persistence
import Chan.Scene.Convergence
import Chan.Control.PlanOrder
import Chan.Control.Leases
import Chan.Control.Period
import Chan.Control.Limit
import Chan.Control.Honest
import Chan.Terminal.RingCrash
import Chan.Tmux.Forgery
import Chan.Tmux.Pairing
import Chan.Tmux.Consent
import Chan.Tmux.Marker
import Chan.Proxy.Bookkeeping
import Chan.Proxy.Inventory
import Chan.Index.Recovery
import Chan.Index.Rebuild
import Chan.Index.Journal
import Chan.WireGuard.Convergence
import Chan.Doc.Reference
import Chan.Tunnel.Budget
import Chan.Doc.LogWindow
import Chan.Presence.Leadership
import Chan.Drafts.Exclusion
import Chan.Bulk.Finalization
