/-!
What the chatbot can help with, as told to its users.
-/

namespace ReconChat

def capabilities : String :=
  "I can help you get information about your Ozone Recon cluster. Here's what I can assist with:

**Container Information:**
- Unhealthy containers (missing, under-replicated, over-replicated, mis-replicated)
- Missing containers
- Deleted containers
- Container replica history

**Keys and Storage:**
- Open keys and their summaries
- Keys pending deletion
- Blocks pending deletion
- Keys within specific containers

**Cluster Overview:**
- Overall cluster state and health
- Datanode information and status
- Pipeline information
- Task status and background processes

**Storage Utilization:**
- File count utilization by size
- Container count utilization by size

**Namespace Information:**
- Path summaries and metadata
- Disk usage for specific paths
- Quota information for volumes and buckets
- File size distribution

**Volumes and Buckets:**
- List all volumes
- List all buckets (optionally filtered by volume)

**Metrics:**
- Prometheus metrics queries

Just ask me questions in natural language like:
- \"How many unhealthy containers are there?\"
- \"Show me the open keys summary\"
- \"What's the cluster state?\"
- \"List all datanodes\"
- \"What's the disk usage for /vol1/bucket1?\"

I'll analyze your question and fetch the relevant data from your Recon service."

end ReconChat
