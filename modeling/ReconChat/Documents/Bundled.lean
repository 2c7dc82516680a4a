/-!
The built-in documents: an OpenAPI description of the Recon REST API and a guide on what each of
its endpoints is for. They are text; nothing here reads them.
-/

namespace ReconChat.Documents

def bundledSchema : String :=
  "openapi: 3.0.0
info:
  title: Ozone Recon REST API
  description: Read-only monitoring API served by the Ozone Recon service.
  version: 1.0.0
servers:
  - url: http://localhost:9888/api/v1
paths:
  /clusterState:
    get:
      summary: Overall cluster state
      description: >-
        Datanode, container, pipeline, volume, bucket and key counts plus
        storage usage for the whole cluster.
      responses:
        '200':
          description: Cluster state
          content:
            application/json:
              schema:
                $ref: '#/components/schemas/ClusterState'
  /datanodes:
    get:
      summary: All datanodes with their state, storage and pipelines
      responses:
        '200':
          description: Datanodes
  /pipelines:
    get:
      summary: All pipelines with their datanodes and replication config
      responses:
        '200':
          description: Pipelines
  /containers/missing:
    get:
      summary: Containers with no live replica
      parameters:
        - $ref: '#/components/parameters/limit'
      responses:
        '200':
          description: Missing containers
  /containers/unhealthy:
    get:
      summary: Unhealthy containers of every state
      parameters:
        - $ref: '#/components/parameters/limit'
        - $ref: '#/components/parameters/batchNum'
      responses:
        '200':
          description: Unhealthy container summary and list
  /containers/unhealthy/\x7bstate\x7d:
    get:
      summary: Unhealthy containers in one state
      parameters:
        - name: state
          in: path
          required: true
          schema:
            type: string
            enum: [MISSING, UNDER_REPLICATED, OVER_REPLICATED, MIS_REPLICATED]
        - $ref: '#/components/parameters/limit'
      responses:
        '200':
          description: Unhealthy containers
  /containers/deleted:
    get:
      summary: Containers in DELETED state
      parameters:
        - $ref: '#/components/parameters/limit'
        - $ref: '#/components/parameters/prevKey'
      responses:
        '200':
          description: Deleted containers
  /containers/\x7bid\x7d/keys:
    get:
      summary: Keys stored in a container
      parameters:
        - name: id
          in: path
          required: true
          schema:
            type: integer
        - $ref: '#/components/parameters/limit'
      responses:
        '200':
          description: Keys
  /containers/\x7bid\x7d/replicaHistory:
    get:
      summary: Replica history of a container
      parameters:
        - name: id
          in: path
          required: true
          schema:
            type: integer
      responses:
        '200':
          description: Replica history
  /keys/open:
    get:
      summary: Open (uncommitted) keys
      parameters:
        - $ref: '#/components/parameters/limit'
        - $ref: '#/components/parameters/prevKey'
        - name: includeFso
          in: query
          schema:
            type: boolean
        - name: includeNonFso
          in: query
          schema:
            type: boolean
      responses:
        '200':
          description: Open keys
  /keys/open/summary:
    get:
      summary: Totals for open keys
      responses:
        '200':
          description: Open key counts and sizes
  /keys/deletePending:
    get:
      summary: Keys pending deletion
      parameters:
        - $ref: '#/components/parameters/limit'
        - $ref: '#/components/parameters/prevKey'
      responses:
        '200':
          description: Keys pending deletion
  /blocks/deletePending:
    get:
      summary: Blocks pending deletion, grouped by state
      parameters:
        - $ref: '#/components/parameters/limit'
      responses:
        '200':
          description: Blocks pending deletion
  /namespace/summary:
    get:
      summary: Entity type and counts under a path
      parameters:
        - $ref: '#/components/parameters/path'
      responses:
        '200':
          description: Namespace summary
  /namespace/usage:
    get:
      summary: Disk usage of a path and its children
      parameters:
        - $ref: '#/components/parameters/path'
        - name: files
          in: query
          schema:
            type: boolean
        - name: replica
          in: query
          schema:
            type: boolean
      responses:
        '200':
          description: Disk usage
  /namespace/quota:
    get:
      summary: Namespace and space quota of a volume or bucket
      parameters:
        - $ref: '#/components/parameters/path'
      responses:
        '200':
          description: Quota usage
  /namespace/dist:
    get:
      summary: File size distribution under a path
      parameters:
        - $ref: '#/components/parameters/path'
      responses:
        '200':
          description: File size histogram
  /utilization/fileCount:
    get:
      summary: File counts bucketed by file size
      parameters:
        - name: volume
          in: query
          schema:
            type: string
        - name: bucket
          in: query
          schema:
            type: string
      responses:
        '200':
          description: File count utilization
  /utilization/containerCount:
    get:
      summary: Container counts bucketed by container size
      responses:
        '200':
          description: Container count utilization
  /volumes:
    get:
      summary: All volumes
      parameters:
        - $ref: '#/components/parameters/limit'
        - $ref: '#/components/parameters/prevKey'
      responses:
        '200':
          description: Volumes
  /buckets:
    get:
      summary: All buckets, optionally for one volume
      parameters:
        - name: volume
          in: query
          schema:
            type: string
        - $ref: '#/components/parameters/limit'
      responses:
        '200':
          description: Buckets
  /task/status:
    get:
      summary: Status of Recon background tasks
      responses:
        '200':
          description: Task status list
  /metrics/query:
    get:
      summary: Proxy a Prometheus instant query
      parameters:
        - name: query
          in: query
          required: true
          schema:
            type: string
      responses:
        '200':
          description: Prometheus result
components:
  parameters:
    limit:
      name: limit
      in: query
      schema:
        type: integer
        default: 1000
    prevKey:
      name: prevKey
      in: query
      schema:
        type: string
    batchNum:
      name: batchNum
      in: query
      schema:
        type: integer
    path:
      name: path
      in: query
      required: true
      schema:
        type: string
        example: /vol1/bucket1
  schemas:
    ClusterState:
      type: object
      properties:
        totalDatanodes:
          type: integer
        healthyDatanodes:
          type: integer
        pipelines:
          type: integer
        containers:
          type: integer
        missingContainers:
          type: integer
        openContainers:
          type: integer
        deletedContainers:
          type: integer
        volumes:
          type: integer
        buckets:
          type: integer
        keys:
          type: integer
        storageReport:
          type: object
          properties:
            capacity:
              type: integer
            used:
              type: integer
            remaining:
              type: integer
"

def bundledGuide : String :=
  "# Ozone Recon API Guide

All endpoints are `GET` and live under `/api/v1`. Responses are JSON.

## Picking an endpoint

| Question about | Endpoint |
|---|---|
| Overall health, counts, capacity | `/api/v1/clusterState` |
| Datanodes and their state | `/api/v1/datanodes` |
| Pipelines | `/api/v1/pipelines` |
| Missing containers | `/api/v1/containers/missing` |
| Under/over/mis-replicated containers | `/api/v1/containers/unhealthy` |
| Uncommitted keys | `/api/v1/keys/open`, `/api/v1/keys/open/summary` |
| Deletion backlog | `/api/v1/keys/deletePending`, `/api/v1/blocks/deletePending` |
| Disk usage of a path | `/api/v1/namespace/usage?path=/vol/bucket` |
| Quota of a volume or bucket | `/api/v1/namespace/quota?path=/vol` |
| File size spread | `/api/v1/utilization/fileCount` |
| Volumes and buckets | `/api/v1/volumes`, `/api/v1/buckets?volume=vol1` |
| Prometheus metrics | `/api/v1/metrics/query?query=...` |

## Concepts

- **Container**: the unit of replication, a few GB holding many blocks.
  It is *missing* when no datanode reports a replica, *under-replicated*
  when fewer replicas exist than the replication factor requires.
- **Open key**: a key whose write started but was never committed. A large
  open-key count usually means clients crashed mid-write.
- **Pipeline**: a group of datanodes that replicate writes together
  (RATIS/THREE or EC).
- **Quota**: volumes and buckets may limit both namespace (object count)
  and space (bytes). `-1` means unlimited.

## Paging

List endpoints accept `limit` (default 1000) and `prevKey`; pass the last
key of a page as `prevKey` to fetch the next.

## Paths

Namespace endpoints take `path` in the form `/volume/bucket/dir/key`.
`/` addresses the whole cluster.
"

end ReconChat.Documents
