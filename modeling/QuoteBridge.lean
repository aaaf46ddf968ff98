import QuoteBridge.Bus.Exchange
import QuoteBridge.Main
import QuoteBridge.Metrics.Exposition
import QuoteBridge.Pool.Depot
import QuoteBridge.Proofs.Adapter.Attribution
import QuoteBridge.Proofs.Adapter.Calls
import QuoteBridge.Proofs.Adapter.Detection
import QuoteBridge.Proofs.Adapter.Outage
import QuoteBridge.Proofs.Adapter.Overlap
import QuoteBridge.Proofs.Adapter.Requests
import QuoteBridge.Proofs.Adapter.Snapshots
import QuoteBridge.Proofs.Adapter.Spelling
import QuoteBridge.Proofs.Bus.Delivery
import QuoteBridge.Proofs.Bus.Outages
import QuoteBridge.Proofs.Deployment.Accounting
import QuoteBridge.Proofs.Deployment.Current
import QuoteBridge.Proofs.Deployment.Severed
import QuoteBridge.Proofs.Feed.Final
import QuoteBridge.Proofs.Feed.Healthy
import QuoteBridge.Proofs.Feed.Listed
import QuoteBridge.Proofs.Item.Names
import QuoteBridge.Proofs.Market.Trades
import QuoteBridge.Proofs.Message.Presentation
import QuoteBridge.Proofs.Pool.Accounts
import QuoteBridge.Proofs.Reconnect.Attempts
import QuoteBridge.Proofs.Request.Grammar
import QuoteBridge.Text.Utf8
